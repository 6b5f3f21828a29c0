import UniversalNetwork.StreamConfiguration.Ownership
import UniversalNetwork.StreamConfiguration.Streams
import UniversalNetwork.StreamReliability.AckSlots

/-!
# Packets of an honest peer

`streamReceive` ignores a packet whose ack is above the local sequence. The sequence starts again at
0 after 65534, so just after that the acks of the packets sent before are above it: an honest packet
is ignored, with its data and the time it was received (`honest_ignored`).

`honest_processed_iff`: a packet that acks one of the last 34 packets sent is processed exactly when
the sequence has not started again since that packet, for `streamReceive` in every run of a stream
and for its block in every run of the streams of a socket.
-/

namespace UniversalNetwork

open Lib

/-! ## One stream -/

section Stream

variable {n a f : Nat} {stream : Stream}

/-- The ack of the packet `d` back is not above the sequence when there was no wrap since. -/
theorem RingAt.ack_le_iff {ref : StreamReliability} (h : RingAt n a f ref) {d : Nat} (h1 : 1 ≤ d)
    (h34 : d ≤ 34) (hn : d ≤ n) : (n - d) % 65535 ≤ ref.sequence ↔ d ≤ n % 65535 := by
  rw [h.sequence]
  omega

/-- `streamReceive` always returns, and accepts the packet by its ack alone. -/
theorem RingAt.streamReceive_eq (h : RingAt n a f stream.reliability) (sequence ack : Nat)
    (ackBits : BitVec 32) :
    (stream.reliability.sequence < ack ∧
      streamReceive stream sequence ack ackBits = some (stream, false)) ∨
    ∃ reliability, ack ≤ stream.reliability.sequence ∧
      streamReliabilityPacketReceived stream.reliability sequence ack ackBits = some reliability ∧
      streamReceive stream sequence ack ackBits =
        some ({ stream with timeoutAccumulator := 0, reliability }, true) := by
  by_cases hack : ack ≤ stream.reliability.sequence
  · obtain ⟨reliability, hreceived, -⟩ := h.packetReceived sequence hack ackBits
    exact .inr ⟨reliability, hack, hreceived, by simp [streamReceive, hack, hreceived]⟩
  · exact .inl ⟨by omega, by simp [streamReceive, hack]⟩

end Stream

/-! ## The streams of a socket -/

/-- The packets sent on stream `i`: each increases its sequence. -/
def sentOn (i : Nat) (config : StreamConfiguration) (actions : List StreamAction) : Nat :=
  countSteps streamStep (fun config config' =>
    (config'.memory i).reliability.sequence ≠ (config.memory i).reliability.sequence) config actions

/-- Each stream has a ring with as many packets as were sent on it. -/
structure Numbered (sent : Nat → Nat) (config : StreamConfiguration) : Prop where
  table : StreamTable config
  ring : ∀ i, ∃ a f, RingAt (sent i) a f (config.memory i).reliability
  unused : ∀ i, config.streamCount ≤ i → sent i = 0

theorem numbered_setup (packets : Nat → Vector UInt8 kNetPacketMaxLen)
    (suspendCallback : Bool) :
    Numbered (fun _ => 0) (streamSetup packets suspendCallback) where
  table := streamSetup_table packets suspendCallback
  ring := fun _ => ⟨0, 0, ringAt_clear⟩
  unused := fun _ _ => rfl

section Steps

variable {n a f a' f' : Nat} {ref ref' : StreamReliability}

theorem RingAt.sequence_same (h : RingAt n a f ref) (h' : RingAt n a' f' ref') :
    ref'.sequence = ref.sequence := by
  rw [h.sequence, h'.sequence]

theorem RingAt.sequence_next (h : RingAt n a f ref) (h' : RingAt (n + 1) a' f' ref') :
    ref'.sequence ≠ ref.sequence := by
  rw [h.sequence, h'.sequence]
  omega

theorem Stream.update_ring {stream stream' : Stream} {due : Bool}
    (h : RingAt n a f stream.reliability) (hupdate : stream.update = some (due, stream')) :
    ∃ a' f', RingAt n a' f' stream'.reliability := by
  obtain ⟨reliability, hreliability, hupdate⟩ := Option.bind_eq_some_iff.1 hupdate
  have hstream : stream'.reliability = reliability := by
    dsimp only at hupdate
    split at hupdate <;> cases hupdate <;> rfl
  have hinterval : (0 : ℚ) ≤ kStreamTimerUpdateInterval := by
    rw [timerInterval_eq]
    norm_num
  rw [hstream]
  rcases h.update hinterval with ⟨-, hsame⟩ | ⟨a', f', ref', hnext, hring, -⟩
  · rw [hsame] at hreliability
    cases hreliability
    exact ⟨a, f, h⟩
  · rw [hnext] at hreliability
    cases hreliability
    exact ⟨a', f', hring⟩

/-- The ring of a stream through a tick. -/
theorem Ticked.ring {stream stream' : Stream} (h : Ticked stream stream')
    (hring : RingAt n a f stream.reliability) :
    ∃ a' f', RingAt (n + if stream'.reliability.sequence ≠ stream.reliability.sequence then 1 else 0)
      a' f' stream'.reliability := by
  cases h with
  | updated h =>
    obtain ⟨a', f', hring'⟩ := Stream.update_ring hring h
    rw [if_neg (not_not.2 (hring.sequence_same hring'))]
    exact ⟨a', f', hring'⟩
  | @sent due stream₁ size reliability h hsent =>
    obtain ⟨a', f', hring'⟩ := Stream.update_ring hring h
    obtain ⟨ref', hsent', hring'', -⟩ := hring'.packetSent size
    rw [hsent] at hsent'
    cases hsent'
    rw [if_pos (hring.sequence_next hring'')]
    exact ⟨_, _, hring''⟩

/-- **One step** keeps the rings and their numbers. -/
theorem Numbered.step {sent : Nat → Nat} {config config' : StreamConfiguration}
    {action : StreamAction} (h : Numbered sent config)
    (hstep : streamStep config action = some config') :
    Numbered (fun i => sent i + if (config'.memory i).reliability.sequence ≠
      (config.memory i).reliability.sequence then 1 else 0) config' := by
  have htable := (streamStep_table h.table hstep).1
  -- streams whose ring does not advance
  have hkeep : ∀ i, (∃ a f, RingAt (sent i) a f (config'.memory i).reliability) →
      ∃ a f, RingAt (sent i + if (config'.memory i).reliability.sequence ≠
        (config.memory i).reliability.sequence then 1 else 0) a f
          (config'.memory i).reliability := by
    rintro i ⟨a', f', hring'⟩
    obtain ⟨a, f, hring⟩ := h.ring i
    rw [if_neg (not_not.2 (hring.sequence_same hring'))]
    exact ⟨a', f', hring'⟩
  have hsame : ∀ i, (config'.memory i).reliability = (config.memory i).reliability →
      ∃ a f, RingAt (sent i + if (config'.memory i).reliability.sequence ≠
        (config.memory i).reliability.sequence then 1 else 0) a f
          (config'.memory i).reliability := by
    intro i hi
    refine hkeep i ?_
    rw [hi]
    exact h.ring i
  have hunused : ∀ i, config.streamCount ≤ i →
      (config'.memory i).reliability.sequence = (config.memory i).reliability.sequence →
      sent i + (if (config'.memory i).reliability.sequence ≠
        (config.memory i).reliability.sequence then 1 else 0) = 0 := by
    intro i hi hsequence
    rw [if_neg (not_not.2 hsequence), h.unused i hi]
  cases streamStep_streams h.table hstep with
  | kept haccepts htimes htick hmemory hcount hlist hpending =>
    refine ⟨htable, fun i => hsame i (by rw [hmemory]), fun i hi => hunused i (hcount ▸ hi) ?_⟩
    rw [hmemory]
  | created haccepts htimes htick address hmemory hcount hlist hpending =>
    have hnew : ∀ i, (config'.memory i).reliability.sequence =
        (config.memory i).reliability.sequence := by
      intro i
      by_cases hi : i = config.streamCount
      · obtain ⟨a, f, hring⟩ := h.ring i
        rw [h.unused i (by omega)] at hring
        rw [hmemory, hi, Function.update_self, ← hi, hring.sequence]
        rfl
      · rw [hmemory, Function.update_of_ne hi]
    refine ⟨htable, fun i => hkeep i ?_, fun i hi => hunused i (by omega) (hnew i)⟩
    by_cases hi : i = config.streamCount
    · rw [hmemory, hi, Function.update_self, h.unused _ (le_refl _)]
      exact ⟨0, 0, ringAt_clear⟩
    · rw [hmemory, Function.update_of_ne hi]
      exact h.ring i
  | ticked haccepts htimes htick hother hticked hcount hlist hpending =>
    refine ⟨htable, fun i => ?_, fun i hi => hunused i (hcount ▸ hi) ?_⟩
    · by_cases hi : i ∈ config.streams
      · obtain ⟨a, f, hring⟩ := h.ring i
        exact (hticked i hi).ring hring
      · exact hsame i (by rw [hother i hi])
    · rw [hother i fun hmem => absurd (h.table.created i hmem) (by omega)]
  | timedOut i haccepts htimes htick hmemory hcount hlist hpending =>
    have hrel : ∀ j, (config'.memory j).reliability = (config.memory j).reliability := by
      intro j
      rw [hmemory]
      by_cases hj : j = i
      · subst hj
        simp
      · simp [hj]
    exact ⟨htable, fun j => hsame j (hrel j), fun j hj => hunused j (hcount ▸ hj) (by rw [hrel])⟩
  | accepted i sequence ack ackBits reliability haccepts htimes htick hack hreceived hmemory hcount
      hlist hpending =>
    have hring : ∀ j, ∃ a f, RingAt (sent j) a f (config'.memory j).reliability := by
      intro j
      obtain ⟨a, f, hring⟩ := h.ring j
      rw [hmemory]
      by_cases hj : j = i
      · subst hj
        rw [Function.update_self]
        exact ⟨a, f, hring.sameRing (packetReceived_sameRing hreceived)⟩
      · rw [Function.update_of_ne hj]
        exact ⟨a, f, hring⟩
    refine ⟨htable, fun j => hkeep j (hring j), fun j hj => hunused j (hcount ▸ hj) ?_⟩
    obtain ⟨a, f, hring₀⟩ := h.ring j
    obtain ⟨a', f', hring'⟩ := hring j
    exact hring₀.sequence_same hring'

end Steps

theorem numbered_run {packets : Nat → Vector UInt8 kNetPacketMaxLen} {suspendCallback : Bool}
    {actions : List StreamAction} {config : StreamConfiguration}
    (hrun : run streamStep (streamSetup packets suspendCallback) actions = some config) :
    Numbered (fun i => sentOn i (streamSetup packets suspendCallback) actions) config := by
  have h : run streamStep (streamSetup packets suspendCallback) actions = some config ∧
      Numbered (fun i => sentOn i (streamSetup packets suspendCallback) actions) config := by
    refine run_history (P := fun actions config =>
      run streamStep (streamSetup packets suspendCallback) actions = some config ∧
        Numbered (fun i => sentOn i (streamSetup packets suspendCallback) actions) config)
      ⟨rfl, numbered_setup packets suspendCallback⟩ ?_ hrun
    rintro actions config action config' ⟨hrun, h⟩ hstep
    refine ⟨run_snoc_eq_some.2 ⟨config, hrun, hstep⟩, ?_⟩
    have hnext := h.step hstep
    simp only [sentOn, countSteps_snoc hrun hstep]
    exact hnext
  exact h.2

/-! ## The block of a received packet -/

/-- The packet was processed for stream `i`: its time starts again, its reliability state has it, and
the callback got an object. -/
def Processed (config config' : StreamConfiguration) (i : Nat) (sequence ack : Nat)
    (ackBits : BitVec 32) : Prop :=
  (config'.memory i).timeoutAccumulator = 0 ∧
  streamReliabilityPacketReceived (config.memory i).reliability sequence ack ackBits =
    some (config'.memory i).reliability ∧
  ∃ object, config'.log = config.log ++ [.receive (config.memory i).address object]

/-- The block of a valid packet from a known peer does not fault, and the packet is processed unless
its ack is above the sequence. -/
theorem streamReceiveBlock_processed {config : StreamConfiguration} {packet i n a f : Nat}
    {stack : StreamObject} {buffer : Vector UInt8 kNetPacketMaxLen} {stream₁ : Bitstream}
    {sequence ack ackBits : UInt32}
    (hbuffer : (config.socket.packet packet).bitstream = receivedStream buffer)
    (hheader : streamProtocolUnpackHeader 0 0 0 (config.socket.packet packet).bitstream =
      some ((.valid, sequence, ack, ackBits), stream₁))
    (hfind : config.find (config.socket.packet packet).addr = some i)
    (hring : RingAt n a f (config.memory i).reliability) :
    ∃ config', streamReceiveBlock config packet stack = some config' ∧
      (Processed config config' i sequence.toNat ack.toNat ackBits.toBitVec ↔
        ack.toNat ≤ (config.memory i).reliability.sequence) := by
  rw [hbuffer] at hheader
  obtain rfl : stream₁ = (receivedStream buffer).moveTo 15 := streamHeader_valid hheader
  obtain ⟨tag, data, stream₂, hdata, -⟩ := unpackData_eq buffer (streamObjectSetup stack)
  obtain ⟨socket₁, hsocket₁⟩ : ∃ s, s = config.socket.setPacket packet
      { config.socket.packet packet with bitstream := (receivedStream buffer).moveTo 15 } :=
    ⟨_, rfl⟩
  have hpacket : socket₁.packet packet =
      { config.socket.packet packet with bitstream := (receivedStream buffer).moveTo 15 } := by
    rw [hsocket₁, packet_setPacket_self]
  have hread : config.socket.onBitstream packet (streamProtocolUnpackHeader 0 0 0) =
      some ((.valid, sequence, ack, ackBits), socket₁) := by
    rw [NetSocket.onBitstream, hbuffer, hheader, hsocket₁]
    rfl
  have hread' : ∃ socket₂, socket₁.onBitstream packet
      (streamProtocolUnpackData (streamObjectSetup stack)) =
        some ((.valid, ⟨data, wireLength buffer, tag⟩), socket₂) := by
    refine ⟨socket₁.setPacket packet { socket₁.packet packet with bitstream := stream₂ }, ?_⟩
    rw [NetSocket.onBitstream, hpacket, hdata]
    rfl
  obtain ⟨socket₂, hread'⟩ := hread'
  have hknown : (config.onSocket socket₁).find (socket₁.packet packet).addr = some i := by
    rw [hpacket]
    exact hfind
  unfold streamReceiveBlock
  rw [hread]
  dsimp only [Option.bind_eq_bind, Option.bind_some]
  rw [if_pos rfl, hknown]
  dsimp only [StreamConfiguration.onSocket]
  rw [hread']
  dsimp only [Option.bind_eq_bind, Option.bind_some]
  rcases hring.streamReceive_eq sequence.toNat ack.toNat ackBits.toBitVec with
    ⟨habove, hreceive⟩ | ⟨reliability, hle, hreceived, hreceive⟩
  · rw [hreceive]
    refine ⟨_, rfl, fun hprocessed => ?_, fun hle => absurd hle (by omega)⟩
    obtain ⟨-, -, object, hlog⟩ := hprocessed
    simpa [StreamConfiguration.setStream] using congrArg List.length hlog
  · rw [hreceive]
    refine ⟨_, rfl, fun _ => hle, fun _ => ⟨?_, ?_, ⟨data, wireLength buffer, tag⟩, rfl⟩⟩
    · simp [StreamConfiguration.setStream, StreamConfiguration.note]
    · simpa [StreamConfiguration.setStream, StreamConfiguration.note] using hreceived

/-- **An honest packet is processed exactly when the sequence has not started again since the packet
it acks**: by `streamReceive` in every run of a stream, and by the block of a valid packet from a
known peer in every run of the streams of a socket. -/
theorem honest_processed_iff (d : Nat) (h1 : 1 ≤ d) (h34 : d ≤ 34) :
    (∀ (address : NetAddr) (as : List ReliabilityAction) (stream : Stream),
      run reliabilityStep (streamCreate address) as = some stream →
      ∀ p, d ≤ as.countP (·.isSent) →
      stream.reliability.packets[stream.reliability.slotBehind d]? = some p →
      ∀ sequence ackBits, ∃ stream' accepted,
        streamReceive stream sequence p.sequence ackBits = some (stream', accepted) ∧
        (accepted = true ∧ stream'.timeoutAccumulator = 0 ∧
          streamReliabilityPacketReceived stream.reliability sequence p.sequence ackBits =
            some stream'.reliability ↔
          d ≤ as.countP (·.isSent) % 65535)) ∧
    ∀ (packets : Nat → Vector UInt8 kNetPacketMaxLen) (suspendCallback : Bool)
      (actions : List StreamAction) (config : StreamConfiguration),
      run streamStep (streamSetup packets suspendCallback) actions = some config →
      ∀ packet rest sequence ack ackBits stream₁ i,
      config.streamDispatchQueue = .receive packet :: rest →
      streamProtocolUnpackHeader 0 0 0 (config.socket.packet packet).bitstream =
        some ((.valid, sequence, ack, ackBits), stream₁) →
      config.find (config.socket.packet packet).addr = some i →
      ∀ p, d ≤ sentOn i (streamSetup packets suspendCallback) actions →
      (config.memory i).reliability.packets[(config.memory i).reliability.slotBehind d]? = some p →
      ack.toNat = p.sequence → ∀ stack, ∃ config',
        streamStep config (.block stack) = some config' ∧
        (Processed config config' i sequence.toNat ack.toNat ackBits.toBitVec ↔
          d ≤ sentOn i (streamSetup packets suspendCallback) actions % 65535) := by
  constructor
  · intro address as stream hrun p hsent hp sequence ackBits
    obtain ⟨a, f, hring⟩ := ringAt_of_run hrun
    have hsequence := hring.get_slotBehind h1 (by omega) hsent hp
    have hiff := hring.ack_le_iff h1 h34 hsent
    rw [← hsequence] at hiff
    rw [← hiff]
    rcases hring.streamReceive_eq sequence p.sequence ackBits with
      ⟨habove, hreceive⟩ | ⟨reliability, hle, hreceived, hreceive⟩
    · exact ⟨stream, false, hreceive, fun h => absurd h.1 nofun, fun h => absurd h (by omega)⟩
    · exact ⟨_, true, hreceive, fun _ => hle, fun _ => ⟨rfl, rfl, hreceived⟩⟩
  · intro packets suspendCallback actions config hrun packet rest sequence ack ackBits stream₁ i
      hqueue hheader hfind p hsent hp hack stack
    obtain ⟨buffer, hbuffer⟩ := (streamHeld_run hrun).receivedStream hqueue
    obtain ⟨a, f, hring⟩ := (numbered_run hrun).ring i
    obtain ⟨config', hblock, hprocessed⟩ := @streamReceiveBlock_processed
      { config with streamDispatchQueue := rest } packet i _ a f stack buffer stream₁ sequence ack
      ackBits hbuffer hheader hfind hring
    refine ⟨config', ?_, hprocessed.trans ?_⟩
    · simp only [streamStep, hqueue]
      exact hblock
    · rw [hack, hring.get_slotBehind h1 (by omega) hsent hp]
      exact hring.ack_le_iff h1 h34 hsent

/-- The first packet of a stream is acked. -/
theorem honest_processed_first : ∃ stream stream',
    run reliabilityStep (streamCreate .zeroed) [.packetSent 100] = some stream ∧
    streamReceive stream 0 0 1 = some (stream', true) ∧ stream'.timeoutAccumulator = 0 := by
  have hrun : (run reliabilityStep (streamCreate .zeroed) [.packetSent 100]).map (fun stream =>
      stream.reliability.packets[stream.reliability.slotBehind 1]?) =
        some (some ⟨0, 0, 100, false⟩) := by
    decide +kernel
  obtain ⟨stream, hrun, hp⟩ := Option.map_eq_some_iff.1 hrun
  obtain ⟨stream', accepted, hreceive, hiff⟩ := (honest_processed_iff 1 (by decide) (by decide)).1
    .zeroed _ stream hrun _ (by decide) hp 0 1
  obtain ⟨rfl, haccumulator, -⟩ := hiff.2 (by decide)
  exact ⟨stream, stream', hrun, hreceive, haccumulator⟩

/-- After 65535 sends the sequence is 0 again, and the ack of the last packet, 65534, is above it. -/
theorem honest_ignored : ¬ ∀ (as : List ReliabilityAction) (stream : Stream),
    run reliabilityStep (streamCreate .zeroed) as = some stream →
    ∀ d p, 1 ≤ d → d ≤ 34 → d ≤ as.countP (·.isSent) →
    stream.reliability.packets[stream.reliability.slotBehind d]? = some p →
    ∀ sequence ackBits, ∃ stream',
      streamReceive stream sequence p.sequence ackBits = some (stream', true) ∧
      stream'.timeoutAccumulator = 0 ∧
      streamReliabilityPacketReceived stream.reliability sequence p.sequence ackBits =
        some stream'.reliability := by
  intro hall
  have hcount : (List.replicate 65535 (ReliabilityAction.packetSent 100)).countP (·.isSent) =
      65535 := by
    rw [List.countP_replicate]
    rfl
  obtain ⟨stream, hrun, a, f, hring⟩ :=
    streamCreate_run .zeroed (List.replicate 65535 (.packetSent 100))
  rw [hcount] at hring
  obtain ⟨p, hp, hs⟩ := hring.slot 65534 (by decide) (by decide)
  have hslot : stream.reliability.packets[stream.reliability.slotBehind 1]? = some p := by
    rw [hring.slotBehind_eq (by decide) (by decide)]
    exact hp
  obtain ⟨stream', hreceive, -⟩ := hall _ stream hrun 1 p (by decide) (by decide)
    (by rw [hcount]; decide) hslot 0 0
  unfold streamReceive at hreceive
  rw [if_neg (by rw [hs, hring.sequence]; decide)] at hreceive
  cases hreceive

end UniversalNetwork
