import UniversalNetwork.Stun.Sequence

/-!
# Who holds the packets of the sequence

A test holds the packet of its request until it completes, a queued receive block the packet it was
queued for, and a packet that was read waits for its receive block or is the application's until it
releases it. `stun.Owns others`: these, and
whoever else holds packets of the socket (`others`), account for every reference the pool counts; a
step of the sequence leaves the others alone (`stunStep_owns`). `Held stun extra` is that for a socket
of its own, with the block that is running (`extra`). So the packet of a request is nobody else's, and
it is sent again to the address it was sent to before.

Result: `sends_same`.
-/

namespace UniversalNetwork

open Lib

def StunTest.holds (test : StunTest) (i : Nat) : Nat :=
  if test.isCompleted = false ∧ test.packet = some i then 1 else 0

def StunBlock.packet : StunBlock → Option Nat
  | .receive _ packet => some packet
  | _ => none

namespace Stun

variable (stun : Stun)

def pending : List Nat := stun.received ++ stun.stunDispatchQueue.filterMap StunBlock.packet

def references (i : Nat) : Nat :=
  (stun.tests .bindingTest1).holds i + (stun.tests .behaviorTest1).holds i +
    (stun.tests .behaviorTest2).holds i + (stun.tests .filteringTest1).holds i +
    (stun.tests .filteringTest2).holds i + (stun.pending.count i + stun.application.count i)

/-- The references of the sequence and of the others are those the pool counts. -/
def Owns (others : Nat → Nat) : Prop := stun.socket.Owned fun i => others i + stun.references i

end Stun

structure Held (stun : Stun) (extra : List Nat) : Prop where
  owned : stun.socket.Owned fun i => extra.count i + stun.references i
  /-- The packet of a test that has not completed has the address it was sent to. -/
  dest : ∀ t packet, (stun.tests t).isCompleted = false → (stun.tests t).packet = some packet →
    ∀ x ∈ stun.sends, x.1 = t → x.2 = (stun.socket.packet packet).addr
  same : ∀ x ∈ stun.sends, ∀ y ∈ stun.sends, x.1 = y.1 → x.2 = y.2

section Rules

variable {stun stun' : Stun} {extra : List Nat} {t : StunTestId} {packet : Nat}

theorem references_setTest (test : StunTest) (i : Nat) :
    (stun.setTest t test).references i + (stun.tests t).holds i =
      stun.references i + test.holds i := by
  have hpending : (stun.setTest t test).pending = stun.pending := rfl
  unfold Stun.references
  rw [hpending, Stun.setTest_application]
  cases t <;> simp [Stun.setTest_tests] <;> omega

theorem references_pos (hcompleted : (stun.tests t).isCompleted = false)
    (hpacket : (stun.tests t).packet = some packet) : 0 < stun.references packet := by
  have hholds : (stun.tests t).holds packet = 1 := if_pos ⟨hcompleted, hpacket⟩
  unfold Stun.references
  cases t <;> omega

/-! ### The references -/

section Owns

variable {others others' : Nat → Nat}

/-- References change hands that the pool does not know of. -/
theorem Stun.Owns.perm (h : stun.Owns others) (hsocket : stun'.socket = stun.socket)
    (htests : stun'.tests = stun.tests)
    (hpending : ∀ i, others' i + (stun'.pending.count i + stun'.application.count i) =
      others i + (stun.pending.count i + stun.application.count i)) : stun'.Owns others' := by
  unfold Stun.Owns
  rw [hsocket]
  refine NetSocket.Owned.congr h fun i => ?_
  have hcount := hpending i
  simp only [Stun.references, htests]
  omega

theorem Stun.Owns.setTest (h : stun.Owns others) {test : StunTest}
    (hcompleted : test.isCompleted = (stun.tests t).isCompleted)
    (hpacket : test.packet = (stun.tests t).packet) : (stun.setTest t test).Owns others := by
  refine NetSocket.Owned.congr h fun i => ?_
  have hrefs := @references_setTest stun t test i
  have hholds : test.holds i = (stun.tests t).holds i := by
    rw [StunTest.holds, StunTest.holds, hcompleted, hpacket]
  omega

theorem Stun.Owns.released (h : stun.Owns others)
    (hothers : ∀ i, others i = others' i + if i = packet then 1 else 0) :
    (stun.onSocket (netPacketRelease stun.socket packet)).Owns others' := by
  refine NetSocket.Owned.release h fun i => ?_
  have hcount := hothers i
  show _ = (others' i + stun.references i) + _
  omega

/-- A test completes and lets go of its packet. -/
theorem Stun.Owns.completed (h : stun.Owns others) (hcompleted : (stun.tests t).isCompleted = false) :
    ((stun.completed t).onSocket (stun.requestReleased t)).Owns others := by
  have hpending : (stun.completed t).pending = stun.pending := by
    simp [Stun.pending, Stun.completed, StunBlock.packet]
  have hrefs : ∀ i, stun.references i =
      (stun.completed t).references i + (stun.tests t).holds i := by
    intro i
    have hset := @references_setTest stun t
      { stun.tests t with timeoutValid := false, isCompleted := true } i
    have hover : StunTest.holds
        { stun.tests t with timeoutValid := false, isCompleted := true } i = 0 := if_neg (by simp)
    have hsame : (stun.completed t).references i = (stun.setTest t
        { stun.tests t with timeoutValid := false, isCompleted := true }).references i := by
      simp only [Stun.references, hpending]
      rfl
    omega
  show (stun.requestReleased t).Owned fun i => others i + (stun.completed t).references i
  cases hpacket : (stun.tests t).packet with
  | none =>
    rw [Stun.requestReleased, hpacket]
    refine NetSocket.Owned.congr h fun i => ?_
    have hholds : (stun.tests t).holds i = 0 := if_neg (by simp [hpacket])
    have := hrefs i
    omega
  | some packet =>
    rw [Stun.requestReleased, hpacket]
    refine NetSocket.Owned.release h fun i => ?_
    have hholds : (stun.tests t).holds i = if i = packet then 1 else 0 := by
      simp [StunTest.holds, hcompleted, hpacket, eq_comm]
    have := hrefs i
    omega

theorem Stun.Owns.retried (h : stun.Owns others) (hcompleted : (stun.tests t).isCompleted = false)
    (hpacket : (stun.tests t).packet = some packet) (destAddr : NetAddr) :
    ((stun.retried t destAddr).onSocket (netSocketSend stun.socket packet)).Owns others := by
  have hset : (stun.setTest t { stun.tests t with
      retries := (stun.tests t).retries + 1, timeoutValid := true }).Owns others := h.setTest rfl rfl
  have hpos : 0 < (stun.setTest t { stun.tests t with
      retries := (stun.tests t).retries + 1, timeoutValid := true }).references packet :=
    references_pos (t := t) (by simpa using hcompleted) (by simpa using hpacket)
  exact NetSocket.Owned.send hset (Nat.lt_of_lt_of_le hpos
    ((Nat.le_add_left _ _).trans (Nat.le_add_right _ _)))

/-- A test that was not started gets a fresh packet. -/
theorem Stun.Owns.requested (h : stun.Owns others) (hnew : stun.tests t = .zeroed)
    {destAddr : NetAddr} {s₁ s₂ : NetSocket} {op : BitM Unit}
    (halloc : netPacketAlloc stun.socket = some (packet, s₁))
    (hpack : (s₁.setPacket packet (netPacketAddr (s₁.packet packet) destAddr)).onBitstream packet op =
      some ((), s₂)) (results : StunResults) (transactionId : StunTransactionId) :
    others packet + stun.references packet = 0 ∧
      ((stun.requested t results destAddr transactionId packet).onSocket
        (netSocketSend s₂ packet)).Owns others := by
  obtain ⟨hfresh, -, -, howned⟩ := NetSocket.Owned.alloc h halloc fun i => rfl
  refine ⟨hfresh, ?_⟩
  have hsent : (netSocketSend s₂ packet).Owned _ :=
    ((howned.setPacket packet _).onBitstream hpack).send (by rw [if_pos rfl]; omega)
  refine hsent.congr fun i => ?_
  have hrefs := @references_setTest stun t
    ⟨false, transactionId, some packet, true, true, 0, true⟩ i
  have hold : (stun.tests t).holds i = 0 := by
    rw [hnew]
    exact if_neg (by simp [StunTest.zeroed])
  have hholds : StunTest.holds ⟨false, transactionId, some packet, true, true, 0, true⟩ i =
      if i = packet then 1 else 0 := by
    simp [StunTest.holds, eq_comm]
  have hsame : (stun.requested t results destAddr transactionId packet).references i =
      (stun.setTest t ⟨false, transactionId, some packet, true, true, 0, true⟩).references i := rfl
  show others i + (stun.requested t results destAddr transactionId packet).references i = _
  omega

/-- A test that starts anew has no request. -/
theorem requestReleased_zeroed (stun : Stun) (t : StunTestId) :
    (stun.setTest t .zeroed).requestReleased t = stun.socket := by
  simp [Stun.requestReleased, StunTest.zeroed]

theorem Stun.Owns.skipped (h : stun.Owns others) (hnew : stun.tests t = .zeroed)
    (results : StunResults) : (stun.skipped t results).Owns others := by
  have hstart : ((stun.note (.start t)).setResults results).Owns others := h
  have hset : (((stun.note (.start t)).setResults results).setTest t .zeroed).Owns others :=
    hstart.setTest (congrArg StunTest.isCompleted hnew.symm) (congrArg StunTest.packet hnew.symm)
  have hcompleted := hset.completed (t := t) (by simp [StunTest.zeroed])
  rw [requestReleased_zeroed] at hcompleted
  exact hcompleted

end Owns

/-! ### The addresses -/

theorem Held.owns (h : Held stun extra) : stun.Owns fun i => extra.count i := h.owned

theorem Held.onSocket (h : Held stun extra) {s : NetSocket}
    (howned : s.Owned fun i => extra.count i + stun.references i)
    (haddr : ∀ i, 0 < stun.references i → (s.packet i).addr = (stun.socket.packet i).addr) :
    Held (stun.onSocket s) extra where
  owned := howned
  dest := fun t packet hcompleted hpacket x hx ht => by
    have hkeeps := haddr packet (references_pos hcompleted hpacket)
    exact (h.dest t packet hcompleted hpacket x hx ht).trans hkeeps.symm
  same := h.same

theorem Held.setResults (h : Held stun extra) (results : StunResults) :
    Held (stun.setResults results) extra :=
  ⟨h.owned, h.dest, h.same⟩

theorem Held.note (h : Held stun extra) {event : StunEvent} (hevent : event.sent = none) :
    Held (stun.note event) extra := by
  have hsends : (stun.note event).sends = stun.sends := by simp [sends_note, hevent]
  refine ⟨h.owned, ?_, ?_⟩
  · rw [hsends]
    exact h.dest
  · rw [hsends]
    exact h.same

theorem Held.setTest (h : Held stun extra) {test : StunTest}
    (hcompleted : test.isCompleted = (stun.tests t).isCompleted)
    (hpacket : test.packet = (stun.tests t).packet) : Held (stun.setTest t test) extra where
  owned := h.owns.setTest hcompleted hpacket
  dest := fun t' => by
    by_cases heq : t' = t
    · subst heq
      rw [Stun.setTest_tests_self, hcompleted, hpacket]
      exact h.dest t'
    · rw [Stun.setTest_tests, Function.update_of_ne heq]
      exact h.dest t'
  same := h.same

theorem Held.released (h : Held stun (packet :: extra)) :
    Held (stun.onSocket (netPacketRelease stun.socket packet)) extra where
  owned := h.owns.released fun i => count_cons extra packet i
  dest := fun t i hcompleted hpacket x hx ht => by
    rw [Stun.onSocket_socket, packet_release]
    exact h.dest t i hcompleted hpacket x hx ht
  same := h.same

theorem requestReleased_packet (i : Nat) :
    (stun.requestReleased t).packet i = stun.socket.packet i := by
  unfold Stun.requestReleased
  split
  · rfl
  · exact packet_release

theorem Held.completed (h : Held stun extra) (hcompleted : (stun.tests t).isCompleted = false) :
    Held ((stun.completed t).onSocket (stun.requestReleased t)) extra := by
  have hsends : (stun.completed t).sends = stun.sends :=
    (@sends_note stun (.complete t)).trans (List.append_nil _)
  refine ⟨h.owns.completed hcompleted, fun t' packet hrunning hpacket x hx ht => ?_, ?_⟩
  · have hne : t' ≠ t := by
      rintro rfl
      simp [Stun.completed] at hrunning
    simp only [Stun.completed, Stun.onSocket_tests, Stun.dispatch_tests, Stun.note_tests,
      Stun.setTest_tests, Function.update_of_ne hne] at hrunning hpacket
    rw [Stun.onSocket_socket, requestReleased_packet]
    exact h.dest t' packet hrunning hpacket x (hsends ▸ hx) ht
  · show ∀ x ∈ (stun.completed t).sends, ∀ y ∈ (stun.completed t).sends, x.1 = y.1 → x.2 = y.2
    rw [hsends]
    exact h.same

/-- A request is sent to the address of its packet, and to no other. -/
theorem Held.sent (h : Held stun extra) {destAddr : NetAddr}
    (hpacket : ∀ packet, (stun.tests t).packet = some packet →
      destAddr = (stun.socket.packet packet).addr)
    (hsame : ∀ x ∈ stun.sends, x.1 = t → x.2 = destAddr) :
    Held (stun.note (.send t destAddr)) extra := by
  have hsends : (stun.note (.send t destAddr)).sends = stun.sends ++ [(t, destAddr)] := sends_note _
  have hmem : ∀ x ∈ stun.sends ++ [(t, destAddr)], x ∈ stun.sends ∨ x = (t, destAddr) := by
    simp
  refine ⟨h.owned, fun t' packet hrunning htest x hx ht => ?_, fun x hx y hy ht => ?_⟩
  · rw [hsends] at hx
    cases hmem x hx with
    | inl hold => exact h.dest t' packet hrunning htest x hold ht
    | inr hnew =>
      subst hnew ht
      exact hpacket packet htest
  · rw [hsends] at hx hy
    cases hmem x hx with
    | inl hx =>
      cases hmem y hy with
      | inl hy => exact h.same x hx y hy ht
      | inr hy =>
        subst hy
        exact hsame x hx ht
    | inr hx =>
      subst hx
      cases hmem y hy with
      | inl hy => exact (hsame y hy ht.symm).symm
      | inr hy => rw [hy]

theorem packet_send_addr {s : NetSocket} {i j : Nat} :
    ((netSocketSend s i).packet j).addr = (s.packet j).addr := by
  by_cases heq : j = i
  · rw [heq, packet_send_self]
  · rw [(queues_send s i).packet j heq]

/-- A request that is sent again goes where it went before. -/
theorem Held.retried (h : Held stun extra) (hcompleted : (stun.tests t).isCompleted = false)
    (hpacket : (stun.tests t).packet = some packet) :
    Held ((stun.retried t (stun.socket.packet packet).addr).onSocket
      (netSocketSend stun.socket packet)) extra := by
  have hset : Held (stun.setTest t { stun.tests t with
      retries := (stun.tests t).retries + 1, timeoutValid := true }) extra := h.setTest rfl rfl
  have hsent : Held (stun.retried t (stun.socket.packet packet).addr) extra := by
    refine hset.sent (fun packet' hpacket' => ?_) (h.dest t packet hcompleted hpacket)
    rw [Stun.setTest_tests_self] at hpacket'
    cases hpacket.symm.trans hpacket'
    rfl
  exact hsent.onSocket (h.owns.retried hcompleted hpacket (stun.socket.packet packet).addr)
    fun i _ => packet_send_addr

theorem Held.requested (h : Held stun []) (hnew : stun.tests t = .zeroed)
    (hunsent : ∀ x ∈ stun.sends, x.1 ≠ t) {results : StunResults} {destAddr : NetAddr}
    {transactionId : StunTransactionId} {s₁ s₂ : NetSocket} {op : BitM Unit}
    (halloc : netPacketAlloc stun.socket = some (packet, s₁))
    (hpack : (s₁.setPacket packet (netPacketAddr (s₁.packet packet) destAddr)).onBitstream packet op =
      some ((), s₂)) :
    Held ((stun.requested t results destAddr transactionId packet).onSocket
      (netSocketSend s₂ packet)) [] := by
  obtain ⟨hfresh, howns⟩ := h.owns.requested hnew halloc hpack results transactionId
  have haddr : ∀ i, 0 < stun.references i →
      ((netSocketSend s₂ packet).packet i).addr = (stun.socket.packet i).addr := by
    intro i hi
    have hne : i ≠ packet := by
      rintro rfl
      omega
    rw [packet_send_addr, (touches_onBitstream hpack).packet i hne,
      (touches_setPacket _ _ _).packet i hne, (touches_alloc halloc).packet i hne]
  have hdest : (s₂.packet packet).addr = destAddr := by
    obtain ⟨bitstream, -, rfl⟩ := onBitstream_eq hpack
    simp [netPacketAddr]
  have hstart : (stun.note (.start t)).sends = stun.sends := by simp [sends_note, StunEvent.sent]
  have hstarted : Held (((((stun.onSocket (netSocketSend s₂ packet)).note (.start t)).setResults
      results).setTest t ⟨false, transactionId, some packet, true, true, 0, true⟩).setReceiveBlock
        (.test t)) [] := by
    refine ⟨howns, fun t' packet' hrunning htest x hx ht => ?_, ?_⟩
    · have hx : x ∈ stun.sends := hstart ▸ hx
      have hne : t' ≠ t := ht ▸ hunsent x hx
      simp only [Stun.setReceiveBlock_tests, Stun.setTest_tests,
        Function.update_of_ne hne] at hrunning htest
      exact (h.dest t' packet' hrunning htest x hx ht).trans
        (haddr packet' (references_pos hrunning htest)).symm
    · show ∀ x ∈ (stun.note (.start t)).sends, ∀ y ∈ (stun.note (.start t)).sends, _
      rw [hstart]
      exact h.same
  refine hstarted.sent (fun packet' hpacket' => ?_) fun x hx ht => ?_
  · have hself : some packet = some packet' := by simpa using hpacket'
    cases hself
    exact (packet_send_addr.trans hdest).symm
  · exact absurd ht (hunsent x (hstart ▸ hx))

theorem Held.skipped (h : Held stun []) (hnew : stun.tests t = .zeroed) (results : StunResults) :
    Held (stun.skipped t results) [] := by
  have hset : Held (((stun.note (.start t)).setResults results).setTest t .zeroed) [] :=
    ((h.note rfl).setResults results).setTest (congrArg StunTest.isCompleted hnew.symm)
      (congrArg StunTest.packet hnew.symm)
  have hcompleted := hset.completed (t := t) (by simp [StunTest.zeroed])
  rw [requestReleased_zeroed] at hcompleted
  exact hcompleted

end Rules

/-! ## Steps -/

section Steps

variable {stage : Stage} {stun stun' : Stun} {action : StunAction} {t t' : StunTestId}
  {rest : List StunBlock}

/-- A test that was not started has sent nothing. -/
theorem Sequenced.unsent (h : Sequenced stage stun) (hnew : t ∉ stage.started) :
    ∀ x ∈ stun.sends, x.1 ≠ t := by
  intro x hx ht
  obtain ⟨event, hmem, hsent⟩ := List.mem_filterMap.1 hx
  have hcount := h.sends t
  rw [h.unstarted t hnew, if_neg hnew] at hcount
  have hnone : stun.log.countP (StunEvent.isSend t) = 0 := by
    simp only [StunTest.zeroed] at hcount
    omega
  refine List.countP_eq_zero.1 hnone event hmem ?_
  cases event with
  | send t' destAddr =>
    cases hsent
    simpa [StunEvent.isSend] using ht
  | _ => cases hsent

theorem not_started_of_next (h : t.next = some t') : t' ∉ (Stage.completed t).started := by
  cases t <;> cases h <;> decide

/-! ### The references -/

section Owns

variable {others : Nat → Nat}

/-- The block that runs holds the packet it was queued for. -/
theorem Stun.Owns.popped (h : stun.Owns others) {block : StunBlock}
    (hqueue : stun.stunDispatchQueue = block :: rest) :
    (stun.popped rest).Owns fun i => others i + block.packet.toList.count i := by
  refine h.perm rfl rfl fun i => ?_
  cases block with
  | receive t packet =>
    have hcount := count_cons [] packet i
    simp [Stun.pending, hqueue, StunBlock.packet, count_cons] at hcount ⊢
    omega
  | _ => simp [Stun.pending, hqueue, StunBlock.packet, List.filterMap_cons]

theorem Stun.Owns.started (h : stun.Owns others) {transactionId : StunTransactionId}
    (hnew : stun.tests t = .zeroed) (hstart : Started stun transactionId t stun') :
    stun'.Owns others := by
  cases hstart with
  | request pack hdest halloc hpack => exact (h.requested hnew halloc hpack _ _).2
  | skip hdest => exact h.skipped hnew _

theorem BlockMove.owns (h : Sequenced stage stun) (howns : stun.Owns others) {block : StunBlock}
    {transactionId : StunTransactionId} (hqueue : stun.stunDispatchQueue = block :: rest)
    (hmove : BlockMove (stun.popped rest) transactionId block stun') : stun'.Owns others := by
  have hmem : block ∈ stun.stunDispatchQueue := hqueue ▸ List.mem_cons_self
  have hpopped := howns.popped hqueue
  have hone : ∀ packet i : Nat, others i + [packet].count i =
      others i + if i = packet then 1 else 0 := fun packet i => by rw [count_cons]; simp
  cases hmove with
  | unresolved hresolution => exact hpopped
  | @resolved primaryServerAddr _ hresolution hstart =>
    obtain rfl := h.waiting_of hmem
    have hnew : StunTestId.bindingTest1 ∉ Stage.waiting.started := List.not_mem_nil
    have hready : ((stun.popped rest).resolved primaryServerAddr).Owns others := hpopped
    exact hready.started (h.unstarted _ hnew) hstart
  | next hnext hstart =>
    obtain rfl := h.completed_of hmem
    have hready : (stun.popped rest).Owns others := hpopped
    exact hready.started (h.unstarted _ (not_started_of_next hnext)) hstart
  | didResolve hnext hsuccess => exact hpopped
  | didFailResolve hnext hsuccess => exact hpopped
  | late hcompleted => exact hpopped.released (hone _)
  | @forwarded t packet s result responseId bindingResponse hcompleted hunpack hresult =>
    have hreset : ((stun.popped rest).onSocket (s.setPacket packet { s.packet packet with
        bitstream := bitstreamReset (s.packet packet).bitstream })).Owns _ :=
      (NetSocket.Owned.onBitstream hpopped hunpack).setPacket packet _
    exact hreset.released (hone packet)
  | @foreign t packet s responseId bindingResponse hcompleted hunpack hid =>
    have hread : ((stun.popped rest).onSocket s).Owns _ :=
      NetSocket.Owned.onBitstream hpopped hunpack
    have hset : ((stunTestDestroyTimeout (stun.popped rest) t).onSocket s).Owns _ :=
      hread.setTest rfl rfl
    exact hset.released (hone packet)
  | @answered t packet s bindingResponse hcompleted hunpack =>
    have hread : ((stun.popped rest).onSocket s).Owns _ :=
      NetSocket.Owned.onBitstream hpopped hunpack
    exact (hread.completed hcompleted).released (hone packet)
  | expired hcompleted => exact hpopped
  | retried hcompleted hretries hpacket => exact hpopped.retried hcompleted hpacket _
  | exhausted hcompleted hretries => exact hpopped.completed hcompleted

/-- **One step** of the sequence, whoever else holds packets of the socket. -/
theorem stunStep_owns (h : Sequenced stage stun) (howns : stun.Owns others)
    (hstep : stunStep stun action = some stun') : stun'.Owns others := by
  cases stunStep_move hstep with
  | idle hidle => exact howns
  | @read datagram packet s hlength hread =>
    obtain ⟨s₁, halloc, rfl⟩ := netSocketReadEvent_eq hread
    have hmore : ∀ i, others i + (stun.receiving (stun.received ++ [packet])).references i =
        (others i + stun.references i) + if i = packet then 1 else 0 := by
      intro i
      simp [Stun.references, Stun.pending, count_cons]
      omega
    exact (NetSocket.Owned.alloc howns halloc hmore).2.2.2.setPacket packet _
  | @called datagram packet s hlength hread =>
    obtain ⟨s₁, halloc, rfl⟩ := netSocketReadEvent_eq hread
    have hmore : ∀ i, others i + (stun.accepting (stun.application ++ [packet])).references i =
        (others i + stun.references i) + if i = packet then 1 else 0 := by
      intro i
      have hsame : (stun.accepting (stun.application ++ [packet])).pending = stun.pending := rfl
      simp [Stun.references, hsame, count_cons]
      omega
    exact (NetSocket.Owned.alloc howns halloc hmore).2.2.2.setPacket packet _
  | unread hread hunread => exact hunread.owned _ howns
  | @receive t i packet hblock hreceived | @deliver t i packet hblock hreceived =>
    refine howns.perm rfl rfl fun j => ?_
    have hcount := count_eraseIdx hreceived j
    have hsingle := count_cons [] packet j
    simp [Stun.pending, StunBlock.packet] at hsingle ⊢
    omega
  | @accepted i packet hreceived =>
    refine howns.perm rfl rfl fun j => ?_
    have hcount := count_eraseIdx hreceived j
    have hsingle := count_cons [] packet j
    simp [Stun.pending] at hsingle ⊢
    omega
  | @released i packet hkept =>
    have hreleased : (stun.accepting (stun.application.eraseIdx i)).Owns
        fun j => others j + if j = packet then 1 else 0 := by
      refine howns.perm rfl rfl fun j => ?_
      have hcount := count_eraseIdx hkept j
      simp only [Stun.pending, Stun.accepting_received, Stun.accepting_stunDispatchQueue,
        Stun.accepting_application]
      omega
    exact hreleased.released fun _ => rfl
  | timeout hblock =>
    exact howns.perm rfl rfl fun i => by simp [Stun.pending, StunBlock.packet, List.filterMap_cons]
  | timeoutFired hblock => exact howns.setTest rfl rfl
  | socketBlock => exact NetSocket.Owned.runBlock howns
  | write => exact NetSocket.Owned.writeEvent howns
  | block hqueue hmove => exact hmove.owns h howns hqueue

end Owns

/-! ### The addresses -/

theorem Held.popped (h : Held stun []) {block : StunBlock}
    (hqueue : stun.stunDispatchQueue = block :: rest) :
    Held (stun.popped rest) block.packet.toList := by
  refine ⟨NetSocket.Owned.congr (h.owns.popped hqueue) fun i => ?_, h.dest, h.same⟩
  simp

theorem Held.started (h : Held stun []) {transactionId : StunTransactionId}
    (hnew : stun.tests t = .zeroed) (hunsent : ∀ x ∈ stun.sends, x.1 ≠ t)
    (hstart : Started stun transactionId t stun') : Held stun' [] := by
  cases hstart with
  | request pack hdest halloc hpack => exact h.requested hnew hunsent halloc hpack
  | skip hdest => exact h.skipped hnew _

/-- Reading a response changes nothing but the bit stream of its packet. -/
theorem Held.onBitstream {extra : List Nat} (h : Held stun extra) {packet : Nat} {s : NetSocket}
    {α : Type} {op : BitM α} {a : α} (hop : stun.socket.onBitstream packet op = some (a, s)) :
    Held (stun.onSocket s) extra := by
  refine h.onSocket (h.owned.onBitstream hop) fun i _ => ?_
  obtain ⟨bitstream, -, rfl⟩ := onBitstream_eq hop
  by_cases heq : i = packet
  · rw [heq, packet_setPacket_self]
  · rw [(touches_setPacket _ _ _).packet i heq]

theorem BlockMove.held (h : Sequenced stage stun) (hheld : Held stun []) {block : StunBlock}
    {transactionId : StunTransactionId} (hqueue : stun.stunDispatchQueue = block :: rest)
    (hmove : BlockMove (stun.popped rest) transactionId block stun') : Held stun' [] := by
  have hmem : block ∈ stun.stunDispatchQueue := hqueue ▸ List.mem_cons_self
  have hpopped := hheld.popped hqueue
  cases hmove with
  | unresolved hresolution => exact hpopped.note rfl
  | @resolved primaryServerAddr _ hresolution hstart =>
    obtain rfl := h.waiting_of hmem
    have hnew : StunTestId.bindingTest1 ∉ Stage.waiting.started := List.not_mem_nil
    have hready : Held ((stun.popped rest).resolved primaryServerAddr) [] :=
      ⟨hpopped.owned, hpopped.dest, hpopped.same⟩
    exact hready.started (h.unstarted _ hnew) (h.unsent hnew) hstart
  | next hnext hstart =>
    obtain rfl := h.completed_of hmem
    have hnew := not_started_of_next hnext
    exact hpopped.started (h.unstarted _ hnew) (h.unsent hnew) hstart
  | didResolve hnext hsuccess =>
    have hended : Held { stun.popped rest with
        receiver := stun.socketInfo, didResolve := true } [] :=
      ⟨hpopped.owned, hpopped.dest, hpopped.same⟩
    exact hended.note rfl
  | didFailResolve hnext hsuccess => exact hpopped.note rfl
  | late hcompleted => exact hpopped.released
  | @forwarded t packet s result responseId bindingResponse hcompleted hunpack hresult =>
    have hread := hpopped.onBitstream hunpack
    have hreset : Held ((stun.popped rest).onSocket (s.setPacket packet { s.packet packet with
        bitstream := bitstreamReset (s.packet packet).bitstream })) [packet] := by
      refine hread.onSocket (hread.owned.setPacket packet _) fun i _ => ?_
      by_cases heq : i = packet
      · rw [heq, packet_setPacket_self]
        rfl
      · rw [(touches_setPacket _ _ _).packet i heq]
        rfl
    exact hreset.released.note rfl
  | @foreign t packet s responseId bindingResponse hcompleted hunpack hid =>
    have hset : Held ((stunTestDestroyTimeout (stun.popped rest) t).onSocket s) [packet] :=
      (hpopped.onBitstream hunpack).setTest rfl rfl
    exact hset.released
  | answered hcompleted hunpack =>
    exact (((hpopped.onBitstream hunpack).setResults _).completed hcompleted).released
  | expired hcompleted => exact hpopped
  | retried hcompleted hretries hpacket => exact hpopped.retried hcompleted hpacket
  | exhausted hcompleted hretries => exact (hpopped.setResults _).completed hcompleted

theorem stunStep_held (h : Sequenced stage stun) (hheld : Held stun [])
    (hstep : stunStep stun action = some stun') : Held stun' [] := by
  have howns := stunStep_owns h hheld.owns hstep
  cases stunStep_move hstep with
  | idle hidle => exact hheld
  | @read datagram packet s hlength hread | @called datagram packet s hlength hread =>
    obtain ⟨s₁, halloc, rfl⟩ := netSocketReadEvent_eq hread
    obtain ⟨hfresh, -⟩ := hheld.owned.alloc halloc fun i => rfl
    refine ⟨howns, fun t packet' hrunning htest x hx ht => ?_, hheld.same⟩
    have hne : packet' ≠ packet := by
      rintro rfl
      have hpos : 0 < stun.references packet' := references_pos hrunning htest
      omega
    rw [hheld.dest t packet' hrunning htest x hx ht]
    show _ = ((s₁.setPacket packet _).packet packet').addr
    rw [(touches_setPacket _ _ _).packet packet' hne, (touches_alloc halloc).packet packet' hne]
  | @unread recvfrom s hread hunread =>
    refine hheld.onSocket (hunread.owned _ hheld.owned) fun i hi => ?_
    rw [hunread.packet _ hheld.owned i (.inl (Nat.add_pos_right _ hi))]
  | receive hblock hreceived | deliver hblock hreceived | accepted hreceived | timeout hblock =>
    exact ⟨howns, hheld.dest, hheld.same⟩
  | released hkept =>
    refine ⟨howns, fun t packet hrunning htest x hx ht => ?_, hheld.same⟩
    rw [Stun.onSocket_socket, packet_release]
    exact hheld.dest t packet hrunning htest x hx ht
  | timeoutFired hblock => exact hheld.setTest rfl rfl
  | socketBlock => exact hheld.onSocket hheld.owned.runBlock fun i _ => by rw [packet_runBlock]
  | write => exact hheld.onSocket hheld.owned.writeEvent fun i _ => by rw [packet_writeEvent]
  | block hqueue hmove => exact hmove.held h hheld hqueue

end Steps

section Runs

variable {packets : Nat → Vector UInt8 kNetPacketMaxLen} {receiveCallback : Option Nat}
  {receiveCallbackContext : Nat} {receiveBlock : Option Nat} {localAddr server : NetAddr}
  {maxRetries : Nat}

theorem held_stunResolve : Held (stunResolve packets receiveCallback receiveCallbackContext
    receiveBlock localAddr (some server) maxRetries) [] :=
  ⟨(netSocketCreate_owned packets).congr fun _ => rfl, nofun, nofun⟩

/-- **Copies of a request go to one address**: whatever is received and whichever timers fire, all
the copies of a request that are handed to the socket have the same destination. -/
theorem sends_same {stun : Stun} {actions : List StunAction}
    (hrun : run stunStep (stunResolve packets receiveCallback receiveCallbackContext receiveBlock
      localAddr (some server) maxRetries) actions = some stun) :
    ∀ x ∈ stun.sends, ∀ y ∈ stun.sends, x.1 = y.1 → x.2 = y.2 := by
  have hinv := run_inv (P := fun stun => ∃ stage, Sequenced stage stun ∧ Held stun [])
    ⟨.waiting, sequenced_stunResolve .., held_stunResolve⟩ ?_ hrun
  · obtain ⟨stage, -, hheld⟩ := hinv
    exact hheld.same
  · rintro stun action stun' ⟨stage, h, hheld⟩ hstep
    obtain ⟨stage', h', -⟩ := stunStep_advance h hstep
    exact ⟨stage', h', stunStep_held h hheld hstep⟩

end Runs

end UniversalNetwork
