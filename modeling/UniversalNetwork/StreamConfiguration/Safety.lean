import UniversalNetwork.Datagram
import UniversalNetwork.StreamConfiguration.Honest
import UniversalNetwork.StreamProtocol.RoundTrip

/-!
# When streams fault

A step of the streams faults where an assert of the reliability ring fails, where the ring, a packet
or the array of an object is accessed outside its bounds, or where the suspend callback is called and
was left out.

* `streams_fault_iff`: only the last of these happens, whatever the application offers and whatever
  datagrams arrive, and it happens exactly where a step suspends an active timer.
* `stream_packets_accounted`: in the state that is reached the packets in use are those read and not
  yet handled, those queued for sending and those that empty datagrams were read into. The rest of the
  64 is free.
-/

namespace UniversalNetwork

open Lib

/-! ## Packing and unpacking -/

/-- An object that says more than its array has does not fit behind the header, and is left out. -/
theorem packStream_isSome (sequence ack ackBitField : UInt32) (object : StreamObject)
    {data : List UInt8} (hdata : data.length = kNetPacketMaxLen) :
    ∃ stream, (do
      streamProtocolPackHeader sequence ack ackBitField
      streamProtocolPackData object) (bitstreamCreate data kNetPacketMaxLen) =
        some ((), stream) := by
  have hs := sized_create hdata
  have hroom : 0 + 15 ≤ 256 := by decide
  have hroom₁ : 15 + 8 ≤ 256 := by decide
  have hroom₂ : 23 + 2 ≤ 256 := by decide
  have hroom₃ : 25 ≤ 256 := by decide
  have hs₁ : (Bitstream.emit _ (wireStreamHeader sequence ack ackBitField)).Sized := hs.emit hroom
  have hs₂ : (Bitstream.emit _ (wire64 object.tag)).Sized := hs₁.emit hroom₁
  have hs₃ : (Bitstream.emit _ (wire16 object.length)).Sized := hs₂.emit hroom₂
  rw [bind_run (writes_streamHeader sequence ack ackBitField _ hs hroom), streamProtocolPackData,
    bind_run (writes_uint64 object.tag _ hs₁ hroom₁),
    bind_run (writes_uint16 object.length _ hs₂ hroom₂)]
  by_cases hlength : object.length.toNat ≤ kStreamObjectDataMaxLength
  · have hbytes : Contained (bitstreamWriteBytes object.data.toList object.length.toNat) :=
      contained_writeBytes (hlength.trans_eq Vector.length_toList.symm)
    obtain ⟨n, stream, hwrite, -⟩ := hbytes kNetPacketMaxLen _ ⟨hs₃, rfl, hroom₃⟩
    exact ⟨stream, bind_run hwrite⟩
  · have hmax : kStreamObjectDataMaxLength = 231 := rfl
    refine ⟨_, bind_run (writeBytes_skip _ fun hfit => hlength ?_)⟩
    have hleft : object.length.toNat ≤ (256 + 2 ^ 64 - 25) % 2 ^ 64 := hfit
    omega

/-! ## No fault -/

/-- Every stream has a ring, whatever was sent on it. -/
def StreamConfiguration.Rings (config : StreamConfiguration) : Prop :=
  ∀ i, ∃ n a f, RingAt n a f (config.memory i).reliability

theorem Numbered.rings {sent : Nat → Nat} {config : StreamConfiguration} (h : Numbered sent config) :
    config.Rings :=
  fun i => ⟨sent i, h.ring i⟩

theorem StreamConfiguration.Rings.setStream {config : StreamConfiguration} (h : config.Rings)
    {i : Nat} {stream : Stream} (hring : ∃ n a f, RingAt n a f stream.reliability) :
    (config.setStream i stream).Rings := by
  intro j
  by_cases hj : j = i
  · subst hj
    simpa [StreamConfiguration.setStream] using hring
  · simpa [StreamConfiguration.setStream, hj] using h j

theorem Stream.update_isSome {stream : Stream}
    (h : ∃ n a f, RingAt n a f stream.reliability) :
    ∃ due stream', stream.update = some (due, stream') ∧
      ∃ n a f, RingAt n a f stream'.reliability := by
  obtain ⟨n, a, f, h⟩ := h
  have hinterval : (0 : ℚ) ≤ kStreamTimerUpdateInterval := by
    rw [timerInterval_eq]
    norm_num
  have hsome : (streamReliabilityUpdate stream.reliability kStreamTimerUpdateInterval).isSome := by
    rcases h.update hinterval with ⟨-, hsame⟩ | ⟨a', f', ref', hnext, -⟩
    · rw [hsame]
      rfl
    · rw [hnext]
      rfl
  obtain ⟨reliability, hreliability⟩ := Option.isSome_iff_exists.1 hsome
  have hupdate : stream.update.isSome := by
    simp only [Stream.update, hreliability, Option.bind_eq_bind, Option.bind_some]
    split <;> rfl
  obtain ⟨⟨due, stream'⟩, hstream'⟩ := Option.isSome_iff_exists.1 hupdate
  obtain ⟨a', f', hring⟩ := Stream.update_ring h hstream'
  exact ⟨due, stream', hstream', n, a', f', hring⟩

section Steps

variable {config : StreamConfiguration} {extra : List Nat} {i packet : Nat}

theorem streamUpdate_isSome (h : config.Rings) (i : Nat) :
    ∃ due config', streamUpdate config i = some (due, config') ∧ config'.Rings := by
  obtain ⟨due, stream, hupdate, hring⟩ := Stream.update_isSome (h i)
  have hset := h.setStream (i := i) hring
  simp only [streamUpdate, hupdate, Option.bind_eq_bind, Option.bind_some]
  split
  · exact ⟨due, _, rfl, hset⟩
  · exact ⟨due, _, rfl, hset⟩

theorem updateStreams_isSome (streams : List Nat) :
    ∀ {config : StreamConfiguration}, config.Rings →
      ∃ due config', updateStreams streams config = some (due, config') ∧ config'.Rings := by
  induction streams with
  | nil => exact fun {config} h => ⟨true, config, rfl, h⟩
  | cons i streams ih =>
    intro config h
    obtain ⟨due, config₁, hfirst, h₁⟩ := streamUpdate_isSome h i
    obtain ⟨due', config₂, hrest, h₂⟩ := ih h₁
    exact ⟨due && due', config₂, by
      simp only [updateStreams, hfirst, hrest, Option.bind_eq_bind, Option.bind_some], h₂⟩

theorem streamSend_isSome (h : config.Rings) (hsized : config.socket.Sized) (i : Nat)
    (object : StreamObject) :
    ∃ config', streamSend config i object = some config' ∧ config'.Rings := by
  unfold streamSend
  dsimp only
  split
  · cases halloc : netPacketAlloc config.socket with
    | none => exact ⟨config, rfl, h⟩
    | some fresh =>
      obtain ⟨packet, s₁⟩ := fresh
      obtain ⟨n, a, f, hring⟩ := h i
      obtain ⟨stream, hpack⟩ := packStream_isSome (.ofNat (config.memory i).reliability.sequence)
        (.ofNat (config.memory i).reliability.ack)
        (.ofBitVec (config.memory i).reliability.ackBits) object (hsized packet)
      have hfresh : (s₁.packet packet).bitstream =
          bitstreamCreate (config.socket.packet packet).bitstream.data kNetPacketMaxLen := by
        rw [packet_alloc halloc]
        rfl
      have hop : s₁.onBitstream packet (do
          streamProtocolPackHeader (.ofNat (config.memory i).reliability.sequence)
            (.ofNat (config.memory i).reliability.ack)
            (.ofBitVec (config.memory i).reliability.ackBits)
          streamProtocolPackData object) =
          some ((), s₁.setPacket packet { s₁.packet packet with bitstream := stream }) := by
        rw [NetSocket.onBitstream, hfresh, hpack]
        rfl
      dsimp only
      rw [hop]
      dsimp only [Option.bind_eq_bind, Option.bind_some]
      obtain ⟨reliability, hsent, hring', -⟩ := hring.packetSent _
      rw [hsent]
      exact ⟨_, rfl, h.setStream ⟨_, _, _, hring'⟩⟩
  · exact ⟨config, rfl, h⟩

theorem sendStreams_isSome (object : StreamObject) (streams : List Nat) :
    ∀ {config : StreamConfiguration}, config.Rings → StreamHeld config extra →
      ∃ config', sendStreams object streams config = some config' := by
  induction streams with
  | nil => exact fun {config} _ _ => ⟨config, rfl⟩
  | cons i streams ih =>
    intro config h hheld
    obtain ⟨config₁, hfirst, h₁⟩ := streamSend_isSome h hheld.sized i object
    obtain ⟨config₂, hrest⟩ := ih h₁ (hheld.streamSend hfirst)
    exact ⟨config₂, by simp only [sendStreams, hfirst, hrest, Option.bind_eq_bind,
      Option.bind_some]⟩

theorem streamTimerCallback_isSome (h : config.Rings) (hheld : StreamHeld config extra)
    (object : StreamObject) : ∃ config', streamTimerCallback config object = some config' := by
  unfold streamTimerCallback
  split
  · obtain ⟨due, config₁, hupdate, h₁⟩ := updateStreams_isSome config.streams h
    obtain ⟨hsocket, hsame⟩ := updateStreams_held hupdate
    have hheld₁ : StreamHeld (config₁.note .update) extra := hheld.congr hsocket hsame
    have hrings₁ : (config₁.note .update).Rings := h₁
    obtain ⟨config₂, hsend⟩ := sendStreams_isSome object config₁.streams hrings₁ hheld₁
    rw [hupdate]
    dsimp only [Option.bind_eq_bind, Option.bind_some]
    cases due with
    | true => exact ⟨config₂, hsend⟩
    | false => exact ⟨config₁, rfl⟩
  · exact ⟨config, rfl⟩

theorem find_onSocket (config : StreamConfiguration) (socket : NetSocket) (address : NetAddr) :
    (config.onSocket socket).find address = config.find address := rfl

/-- The block of a received packet, whatever its bytes are. -/
theorem streamReceiveBlock_isSome (h : config.Rings) {buffer : Vector UInt8 kNetPacketMaxLen}
    (hbuffer : (config.socket.packet packet).bitstream = receivedStream buffer)
    (stack : StreamObject) : ∃ config', streamReceiveBlock config packet stack = some config' := by
  obtain ⟨⟨result, sequence, ack, ackBits⟩, k, hheader, -⟩ :=
    atMost_streamHeader 0 0 0 (receivedStream buffer) (by
      rw [length_receivedStream]
      exact (by decide : 0 + 15 ≤ 256))
  have hop : config.socket.onBitstream packet (streamProtocolUnpackHeader 0 0 0) =
      some ((result, sequence, ack, ackBits), config.socket.setPacket packet
        { config.socket.packet packet with bitstream := (receivedStream buffer).moveTo k }) := by
    rw [NetSocket.onBitstream, hbuffer, hheader]
    rfl
  by_cases hvalid : result = .valid
  · subst hvalid
    cases hfind : config.find (config.socket.packet packet).addr with
    | none =>
      unfold streamReceiveBlock
      rw [hop]
      dsimp only [Option.bind_eq_bind, Option.bind_some]
      rw [if_pos rfl, packet_setPacket_self]
      dsimp only
      rw [find_onSocket, hfind]
      exact ⟨_, rfl⟩
    | some i =>
      obtain ⟨n, a, f, hring⟩ := h i
      rw [← hbuffer] at hheader
      exact (streamReceiveBlock_processed hbuffer hheader hfind hring).imp fun _ hblock => hblock.1
  · unfold streamReceiveBlock
    rw [hop]
    dsimp only [Option.bind_eq_bind, Option.bind_some]
    rw [if_neg hvalid]
    exact ⟨_, rfl⟩

/-- The step suspends the timer, and the callback is called. -/
def Suspends (config : StreamConfiguration) : StreamAction → Prop
  | .suspend => config.active = true
  | .block _ =>
    match config.streamDispatchQueue with
    | .remove address :: _ => config.Empties address ∧ config.active = true
    | _ => False
  | _ => False

/-- **A step faults** exactly when it calls a callback that is not there. -/
theorem streamStep_isSome_iff {sent : Nat → Nat} (h : Numbered sent config)
    (hheld : StreamHeld config []) (action : StreamAction) :
    (streamStep config action).isSome ↔
      (Suspends config action → config.suspendCallback = true) := by
  rw [Option.isSome_iff_exists]
  cases action with
  | tick updateObject =>
    exact iff_of_true (streamTimerCallback_isSome h.rings hheld updateObject) False.elim
  | block stack =>
    cases hqueue : config.streamDispatchQueue with
    | nil =>
      simp only [streamStep, Suspends, hqueue]
      exact iff_of_true ⟨config, rfl⟩ False.elim
    | cons block rest =>
      simp only [streamStep, Suspends, hqueue]
      cases block with
      | receive packet =>
        obtain ⟨buffer, hbuffer⟩ := hheld.receivedStream hqueue
        have hrings : ({ config with streamDispatchQueue := rest } : StreamConfiguration).Rings :=
          h.rings
        exact iff_of_true (streamReceiveBlock_isSome hrings hbuffer stack) False.elim
      | remove address =>
        simp only [runStreamBlock, streamRemoveBlock_iff, exists_and_left, exists_eq, and_true]
        exact and_imp.symm
      | add _ | timeout _ => exact iff_of_true ⟨_, rfl⟩ False.elim
  | suspend =>
    simp only [streamStep, streamSuspend_iff, exists_and_left, exists_eq, and_true]
    rfl
  | read recvfrom =>
    simp only [streamStep]
    split <;> exact iff_of_true ⟨_, rfl⟩ False.elim
  | callback i =>
    simp only [streamStep]
    split <;> exact iff_of_true ⟨_, rfl⟩ False.elim
  | add _ | remove _ | resume | socketBlock | write => exact iff_of_true ⟨_, rfl⟩ False.elim

/-- What no step breaks. -/
structure SoundStreams (suspendCallback : Bool) (config : StreamConfiguration) : Prop where
  numbered : ∃ sent, Numbered sent config
  held : StreamHeld config []
  callback : config.suspendCallback = suspendCallback

theorem sound_setup (packets : Nat → Vector UInt8 kNetPacketMaxLen) (suspendCallback : Bool) :
    SoundStreams suspendCallback (streamSetup packets suspendCallback) :=
  ⟨⟨_, numbered_setup packets suspendCallback⟩, streamHeld_setup packets suspendCallback, rfl⟩

theorem SoundStreams.step {suspendCallback : Bool} {config' : StreamConfiguration}
    {action : StreamAction} (h : SoundStreams suspendCallback config)
    (hstep : streamStep config action = some config') :
    SoundStreams suspendCallback config' := by
  obtain ⟨sent, hnumbered⟩ := h.numbered
  exact ⟨⟨_, hnumbered.step hstep⟩, streamStep_held h.held hstep,
    (streamStep_callback hstep).trans h.callback⟩

theorem SoundStreams.isSome_iff {suspendCallback : Bool} (h : SoundStreams suspendCallback config)
    (action : StreamAction) : (streamStep config action).isSome ↔
      (Suspends config action → suspendCallback = true) := by
  obtain ⟨sent, hnumbered⟩ := h.numbered
  rw [streamStep_isSome_iff hnumbered h.held, h.callback]

end Steps

/-- **When streams fault**: a run of calls from the application, ticks, blocks and events of the socket
succeeds just when there is a suspend callback or no step suspends an active timer, whatever objects
are offered and whatever bytes and addresses arrive. It leaves every reliability ring in shape. -/
theorem streams_fault_iff (packets : Nat → Vector UInt8 kNetPacketMaxLen) (suspendCallback : Bool)
    (actions : List StreamAction) :
    ((run streamStep (streamSetup packets suspendCallback) actions).isSome ↔
      suspendCallback = true ∨ Along streamStep (fun config action => ¬ Suspends config action)
        (streamSetup packets suspendCallback) actions) ∧
    ∀ config, run streamStep (streamSetup packets suspendCallback) actions = some config →
      ∀ i, RingShape (sentOn i (streamSetup packets suspendCallback) actions)
        (config.memory i).reliability := by
  constructor
  · have hruns := @run_isSome_iff _ _ _ (fun config action =>
      Suspends config action → suspendCallback = true) (SoundStreams suspendCallback) _ actions
      (sound_setup packets suspendCallback) (fun _ _ _ h hstep => h.step hstep)
      fun _ action h => h.isSome_iff action
    rw [hruns]
    cases suspendCallback with
    | true => exact iff_of_true (along_of_forall (fun _ _ _ _ => rfl) _) (.inl rfl)
    | false => simp only [Bool.false_eq_true, imp_false, false_or]
  · intro config hrun i
    obtain ⟨a, f, hring⟩ := (numbered_run hrun).ring i
    exact hring.shape

/-! ## Packets in use -/

/-- No packet is left to nobody twice. -/
theorem unclaimed_run {packets : Nat → Vector UInt8 kNetPacketMaxLen} {suspendCallback : Bool}
    {actions : List StreamAction} {config : StreamConfiguration}
    (hrun : run streamStep (streamSetup packets suspendCallback) actions = some config) :
    config.socket.unclaimed.Nodup := by
  refine (run_inv (P := fun config => StreamHeld config [] ∧ config.socket.unclaimed.Nodup)
    ⟨streamHeld_setup packets suspendCallback, List.nodup_nil⟩ ?_ hrun).2
  rintro config action config' ⟨hheld, hnodup⟩ hstep
  refine ⟨streamStep_held hheld hstep, ?_⟩
  rcases streamStep_unclaimed hstep with ⟨-, i, socket, halloc, hunclaimed⟩ | ⟨-, hunclaimed⟩
  · have hnext := List.nodup_cons.2 ⟨hheld.owned.alloc_claimed halloc, hnodup⟩
    rw [hunclaimed]
    exact List.perm_append_comm.nodup_iff.2 hnext
  · rwa [hunclaimed]

/-- **The packets of the streams are accounted for**: in every state that a run reaches a packet is
free exactly when it is neither read and not yet handled, nor queued for sending, nor left to nobody,
and nothing was released that was not held. A packet is lost in each step that reads an empty datagram
while the pool has one, and in no other. -/
theorem stream_packets_accounted {packets : Nat → Vector UInt8 kNetPacketMaxLen}
    {suspendCallback : Bool} {actions : List StreamAction} {config : StreamConfiguration}
    (hrun : run streamStep (streamSetup packets suspendCallback) actions = some config) :
    config.socket.unheld = [] ∧
    (∀ i, i ∈ config.socket.poolPackets.freeList ↔ i < kNetPacketPoolCapacity ∧
      i ∉ config.received ∧ .receive i ∉ config.streamDispatchQueue ∧
      i ∉ config.socket.socketDispatchQueue ∧ i ∉ config.socket.pendingPackets ∧
      i ∉ config.socket.unclaimed) ∧
    config.socket.unclaimed.length =
      countAlong streamStep Strands (streamSetup packets suspendCallback) actions ∧
    (config.received = [] → (∀ i, .receive i ∉ config.streamDispatchQueue) →
      config.socket.socketDispatchQueue = [] → config.socket.pendingPackets = [] →
      (config.socket.poolPackets.freeList ++ config.socket.unclaimed).Perm
        (List.range kNetPacketPoolCapacity)) := by
  have hheld := streamHeld_run hrun
  have hblock : ∀ i, i ∈ config.streamDispatchQueue.filterMap StreamBlock.packet ↔
      .receive i ∈ config.streamDispatchQueue := by
    intro i
    rw [List.mem_filterMap]
    constructor
    · rintro ⟨block, hmem, hpacket⟩
      cases block <;> cases hpacket
      exact hmem
    · exact fun hmem => ⟨_, hmem, rfl⟩
  have hfree : ∀ i, i ∈ config.socket.poolPackets.freeList ↔ i < kNetPacketPoolCapacity ∧
      i ∉ config.received ∧ .receive i ∉ config.streamDispatchQueue ∧
      i ∉ config.socket.socketDispatchQueue ∧ i ∉ config.socket.pendingPackets ∧
      i ∉ config.socket.unclaimed := by
    intro i
    rw [hheld.owned.holds.free i, hheld.owned.capacity]
    simp only [List.nil_append, StreamConfiguration.held, Nat.add_eq_zero_iff, List.count_eq_zero,
      List.mem_append, not_or, hblock, and_assoc]
  have hcount := run_counting (fun config : StreamConfiguration => config.socket.unclaimed.length)
    (p := Strands) (P := fun _ => True) trivial (fun config action config' _ hstep => by
      rcases streamStep_unclaimed hstep with ⟨hstrands, i, socket, -, hunclaimed⟩ |
        ⟨hstrands, hunclaimed⟩
      · rw [hunclaimed, if_pos hstrands, List.length_append]
        exact ⟨trivial, rfl⟩
      · rw [hunclaimed, if_neg hstrands]
        exact ⟨trivial, rfl⟩) hrun
  refine ⟨hheld.owned.unheld, hfree, hcount.trans (Nat.zero_add _),
    fun hreceived hqueue hsocket hpending => ?_⟩
  have hused : ∀ i ∈ config.socket.unclaimed, i < kNetPacketPoolCapacity := fun i hi => by
    have hcounted := List.count_pos_iff.2 hi
    rw [← hheld.owned.capacity]
    exact hheld.owned.holds.lt_capacity (Nat.add_pos_right _ (Nat.add_pos_right _ hcounted))
  have hnodup : (config.socket.poolPackets.freeList ++ config.socket.unclaimed).Nodup :=
    List.nodup_append.2 ⟨hheld.owned.holds.nodup, unclaimed_run hrun, fun i hi j hj heq =>
      ((hfree i).1 hi).2.2.2.2.2 (heq ▸ hj)⟩
  refine (List.perm_ext_iff_of_nodup hnodup List.nodup_range).2 fun i => ?_
  rw [List.mem_append, hfree, hreceived, hsocket, hpending, List.mem_range]
  constructor
  · rintro (hi | hi)
    · exact hi.1
    · exact hused i hi
  · intro hi
    by_cases hmem : i ∈ config.socket.unclaimed
    · exact .inr hmem
    · exact .inl ⟨hi, List.not_mem_nil, hqueue i, List.not_mem_nil, List.not_mem_nil, hmem⟩

/-- A packet of another protocol is read and handled, a second one is only read, and an empty datagram
takes the packet of the first. -/
def readTwice : List StreamAction :=
  [.read (.datagram ⟨.zeroed, [0xa2, 0x01, 0x04], .none⟩),
    .read (.datagram ⟨.zeroed, [0xff], .none⟩), .callback 0,
    .block ⟨Vector.replicate _ 0, 0, 0⟩, .read (.datagram ⟨.zeroed, [], .none⟩)]

theorem stream_packets_accounted_readTwice : ∃ config,
    run streamStep (streamSetup (fun _ => Vector.replicate _ 0) true) readTwice = some config ∧
      config.received = [1] ∧ config.socket.unclaimed.length = 1 ∧
      2 ∈ config.socket.poolPackets.freeList ∧ 1 ∉ config.socket.poolPackets.freeList := by
  have hrun : (run streamStep (streamSetup (fun _ => Vector.replicate _ 0) true) readTwice).map
      (fun config => (config.received, config.streamDispatchQueue,
        config.socket.socketDispatchQueue, config.socket.pendingPackets, config.socket.unclaimed)) =
        some ([1], [], [], [], [0]) := by
    decide +kernel
  have hcount : countAlong streamStep Strands (streamSetup (fun _ => Vector.replicate _ 0) true)
      readTwice = 1 := by
    decide +kernel
  obtain ⟨config, hconfig, hvalues⟩ := Option.map_eq_some_iff.1 hrun
  simp only [Prod.mk.injEq] at hvalues
  obtain ⟨hreceived, hqueue, hsocket, hpending, hunclaimed⟩ := hvalues
  obtain ⟨-, hfree, hlost, -⟩ := stream_packets_accounted hconfig
  rw [hreceived, hqueue, hsocket, hpending, hunclaimed] at hfree
  exact ⟨config, hconfig, hreceived, hlost.trans hcount, (hfree 2).2 (by decide),
    fun hmem => absurd ((hfree 1).1 hmem) (by decide)⟩

end UniversalNetwork
