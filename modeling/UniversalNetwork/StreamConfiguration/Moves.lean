import UniversalNetwork.StreamConfiguration

/-!
# What a step of the streams can do

`StreamSend`, `StreamReceive` and `StreamTick`: all that a call of `streamSend`, the block of a
received packet and the timer callback can do.
`Quiet`: changes that touch neither the list of streams, nor the timer, nor when a stream is due.
`StreamConfiguration.suspended`, `StreamConfiguration.removed`: the state that `streamSuspend` and the
block of `streamRemove` leave when the suspend callback is there.
`streamStep_move`: a step is quiet, or suspends or resumes the timer, adds or removes a stream, or
is a tick.
-/

namespace UniversalNetwork

open Lib

section Calls

variable {config config' : StreamConfiguration} {i packet : Nat} {object : StreamObject}

/-- A call of `streamSend` sends nothing, in another state or with the pool empty, or one packet. -/
inductive StreamSend (config : StreamConfiguration) (i : Nat) (object : StreamObject) :
    StreamConfiguration → Prop
  | skipped (hskip : (config.memory i).state = .connected ∨ (config.memory i).state = .waiting →
      netPacketAlloc config.socket = none) : StreamSend config i object config
  | sent {packet : Nat} {s₁ s₂ s₃ : NetSocket} {reliability : StreamReliability}
    (hstate : (config.memory i).state = .connected ∨ (config.memory i).state = .waiting)
    (halloc : netPacketAlloc config.socket = some (packet, s₁))
    (hpack : s₁.onBitstream packet (do
      streamProtocolPackHeader (.ofNat (config.memory i).reliability.sequence)
        (.ofNat (config.memory i).reliability.ack) (.ofBitVec (config.memory i).reliability.ackBits)
      streamProtocolPackData object) = some ((), s₂))
    (hsend : s₃ = netSocketSend (s₂.setPacket packet
      (netPacketAddr (s₂.packet packet) (config.memory i).address)) packet)
    (hsent : streamReliabilityPacketSent (config.memory i).reliability (s₃.packet packet).length =
      some reliability) :
    StreamSend config i object ((config.onSocket (netPacketRelease s₃ packet)).setStream i
      { config.memory i with reliability })

theorem streamSend_cases (h : streamSend config i object = some config') :
    StreamSend config i object config' := by
  unfold streamSend at h
  dsimp only at h
  split at h
  · rename_i hstate
    split at h
    · rename_i hnone
      cases h
      exact .skipped fun _ => hnone
    · rename_i packet s₁ halloc
      obtain ⟨⟨_, s₂⟩, hpack, h⟩ := Option.bind_eq_some_iff.1 h
      obtain ⟨reliability, hsent, h⟩ := Option.bind_eq_some_iff.1 h
      cases h
      exact .sent hstate halloc hpack rfl hsent
  · rename_i hstate
    cases h
    exact .skipped fun h => absurd h hstate

/-- The block of a received packet finds no header, no stream of the sender, or a stream. -/
inductive StreamReceive (config : StreamConfiguration) (packet : Nat) (object : StreamObject) :
    StreamConfiguration → Prop
  | invalid {result : UnpackResult} {sequence ack ackBitField : UInt32} {socket : NetSocket}
    (hheader : config.socket.onBitstream packet (streamProtocolUnpackHeader 0 0 0) =
      some ((result, sequence, ack, ackBitField), socket)) (hinvalid : result ≠ .valid) :
    StreamReceive config packet object
      ((config.onSocket socket).onSocket (netPacketRelease socket packet))
  | unknown {sequence ack ackBitField : UInt32} {socket : NetSocket}
    (hheader : config.socket.onBitstream packet (streamProtocolUnpackHeader 0 0 0) =
      some ((.valid, sequence, ack, ackBitField), socket))
    (hfind : config.find (socket.packet packet).addr = none) :
    StreamReceive config packet object ((streamAdd (config.onSocket socket)
      (socket.packet packet).addr).onSocket (netPacketRelease socket packet))
  | known {i : Nat} {sequence ack ackBitField : UInt32} {socket socket' : NetSocket}
    {result : UnpackResult} {received : StreamObject} {stream : Stream} {accepted : Bool}
    (hheader : config.socket.onBitstream packet (streamProtocolUnpackHeader 0 0 0) =
      some ((.valid, sequence, ack, ackBitField), socket))
    (hfind : config.find (socket.packet packet).addr = some i)
    (hdata : socket.onBitstream packet (streamProtocolUnpackData (streamObjectSetup object)) =
      some ((result, received), socket'))
    (hreceive : streamReceive (config.memory i) sequence.toNat ack.toNat ackBitField.toBitVec =
      some (stream, accepted))
    (config₁ : StreamConfiguration) (hset : config₁ = ((config.onSocket socket).onSocket
      (netPacketRelease socket' packet)).setStream i stream) :
    StreamReceive config packet object
      (if accepted then config₁.note (.receive stream.address received) else config₁)

theorem streamReceiveBlock_receive (h : streamReceiveBlock config packet object = some config') :
    StreamReceive config packet object config' := by
  obtain ⟨⟨⟨result, sequence, ack, ackBitField⟩, socket⟩, hheader, h⟩ :=
    Option.bind_eq_some_iff.1 h
  dsimp only at h
  split at h
  · rename_i hvalid
    subst hvalid
    split at h
    · rename_i hnone
      cases h
      exact .unknown hheader hnone
    · rename_i i hsome
      obtain ⟨⟨⟨result', received⟩, socket'⟩, hdata, h⟩ := Option.bind_eq_some_iff.1 h
      obtain ⟨⟨stream, accepted⟩, hreceive, h⟩ := Option.bind_eq_some_iff.1 h
      have hknown := StreamReceive.known hheader hsome hdata hreceive _ rfl
      dsimp only at h
      split at h <;> rename_i haccepted <;> cases h
      · rwa [if_pos haccepted] at hknown
      · rwa [if_neg haccepted] at hknown
  · rename_i hinvalid
    cases h
    exact .invalid hheader hinvalid

/-- A tick updates every stream, and sends on every stream if all are due. -/
inductive StreamTick (config : StreamConfiguration) (object : StreamObject) :
    StreamConfiguration → Prop
  | idle (hnil : config.streams = []) : StreamTick config object config
  | updated {config' : StreamConfiguration} (hne : config.streams ≠ [])
    (hupdate : updateStreams config.streams config = some (false, config')) :
    StreamTick config object config'
  | sent {config₁ config' : StreamConfiguration} (hne : config.streams ≠ [])
    (hupdate : updateStreams config.streams config = some (true, config₁))
    (hsend : sendStreams object config₁.streams (config₁.note .update) = some config') :
    StreamTick config object config'

theorem streamTimerCallback_tick (h : streamTimerCallback config object = some config') :
    StreamTick config object config' := by
  unfold streamTimerCallback at h
  split at h
  · rename_i hne
    obtain ⟨⟨syncUpdate, config₁⟩, hupdate, h⟩ := Option.bind_eq_some_iff.1 h
    cases syncUpdate with
    | false =>
      cases h
      exact .updated hne hupdate
    | true => exact .sent hne hupdate h
  · rename_i hnil
    cases h
    exact .idle (not_not.1 hnil)

end Calls

/-- Changes of the socket, the queues, the log and the streams, one after the other. Of a stream
they leave alone its address, its flow and its update accumulator. -/
inductive Quiet (config : StreamConfiguration) : StreamConfiguration → Prop
  | refl : Quiet config config
  | queues {config' config'' : StreamConfiguration} (h : Quiet config config')
    (hstreams : config''.streams = config'.streams)
    (hcount : config''.streamCount = config'.streamCount)
    (hmemory : config''.memory = config'.memory) (hactive : config''.active = config'.active)
    (htimer : config''.timerSuspendCount = config'.timerSuspendCount)
    (hcallback : config''.suspendCallback = config'.suspendCallback)
    (hlog : config''.log = config'.log) : Quiet config config''
  | note {config' : StreamConfiguration} (h : Quiet config config') (event : StreamEvent)
    (hupdate : event ≠ .update) (hsuspend : event ≠ .suspend) : Quiet config (config'.note event)
  | setStream {config' : StreamConfiguration} (h : Quiet config config') (i : Nat) (stream : Stream)
    (haddress : stream.address = (config'.memory i).address)
    (hflow : stream.flow = (config'.memory i).flow)
    (haccumulator : stream.updateAccumulator = (config'.memory i).updateAccumulator) :
    Quiet config (config'.setStream i stream)

section Quiet

variable {config config' config'' : StreamConfiguration} {i : Nat} {stream : Stream}

theorem Quiet.onSocket (h : Quiet config config') (socket : NetSocket) :
    Quiet config (config'.onSocket socket) :=
  h.queues rfl rfl rfl rfl rfl rfl rfl

theorem Quiet.dispatch (h : Quiet config config') (block : StreamBlock) :
    Quiet config (config'.dispatch block) :=
  h.queues rfl rfl rfl rfl rfl rfl rfl

theorem quiet_popped (config : StreamConfiguration) (rest : List StreamBlock) :
    Quiet config { config with streamDispatchQueue := rest } :=
  Quiet.refl.queues rfl rfl rfl rfl rfl rfl rfl

theorem streamSend_quiet {object : StreamObject} (hquiet : Quiet config config')
    (h : streamSend config' i object = some config'') : Quiet config config'' := by
  cases streamSend_cases h with
  | skipped _ => exact hquiet
  | sent _ _ _ _ _ => exact (hquiet.onSocket _).setStream i _ rfl rfl rfl

/-- What every `streamSend` keeps, `sendStreams` keeps. -/
theorem sendStreams_inv {P : StreamConfiguration → Prop} {object : StreamObject} {streams : List Nat}
    (hstep : ∀ {config config' i}, P config → streamSend config i object = some config' → P config')
    (h : P config) (hsend : sendStreams object streams config = some config') : P config' := by
  induction streams generalizing config with
  | nil =>
    cases hsend
    exact h
  | cons i streams ih =>
    obtain ⟨config₁, hfirst, hrest⟩ := Option.bind_eq_some_iff.1 hsend
    exact ih (hstep h hfirst) hrest

theorem sendStreams_quiet {object : StreamObject} {streams : List Nat}
    (hquiet : Quiet config config') (h : sendStreams object streams config' = some config'') :
    Quiet config config'' :=
  sendStreams_inv streamSend_quiet hquiet h

theorem streamReceive_eq {sequence ack : Nat} {ackBitField : BitVec 32} {accepted : Bool}
    {stream' : Stream}
    (h : streamReceive stream sequence ack ackBitField = some (stream', accepted)) :
    stream'.address = stream.address ∧ stream'.flow = stream.flow ∧
      stream'.updateAccumulator = stream.updateAccumulator := by
  unfold streamReceive at h
  split at h
  · obtain ⟨reliability, -, h⟩ := Option.bind_eq_some_iff.1 h
    cases h
    exact ⟨rfl, rfl, rfl⟩
  · cases h
    exact ⟨rfl, rfl, rfl⟩

theorem streamReceiveBlock_quiet {packet : Nat} {object : StreamObject}
    (hquiet : Quiet config config')
    (h : streamReceiveBlock config' packet object = some config'') : Quiet config config'' := by
  cases streamReceiveBlock_receive h with
  | invalid _ _ => exact (hquiet.onSocket _).onSocket _
  | unknown _ _ => exact ((hquiet.onSocket _).dispatch _).onSocket _
  | @known i _ _ _ socket socket' _ received stream _ _ _ _ hreceive _ hset =>
    subst hset
    obtain ⟨haddress, hflow, haccumulator⟩ := streamReceive_eq hreceive
    have hset := ((hquiet.onSocket socket).onSocket (netPacketRelease socket' packet)).setStream i
      stream haddress hflow haccumulator
    split
    · exact hset.note (.receive stream.address received) nofun nofun
    · exact hset

theorem streamTimeoutBlock_quiet (hquiet : Quiet config config') (i : Nat) :
    Quiet config (streamTimeoutBlock config' i) := by
  have hset := hquiet.setStream i { config'.memory i with state := .timeout } rfl rfl rfl
  exact hset.note (.timeout (config'.memory i).address) nofun nofun

end Quiet

/-! ## Suspend and remove -/

/-- After `streamSuspend`. -/
def StreamConfiguration.suspended (config : StreamConfiguration) : StreamConfiguration :=
  if config.active then
    { config with
      timerSuspendCount := config.timerSuspendCount + 1, active := false }.note .suspend
  else config

/-- After the block of `streamRemove`. -/
def StreamConfiguration.removed (config : StreamConfiguration) (streamAddress : NetAddr) :
    StreamConfiguration :=
  match config.find streamAddress with
  | none => config
  | some i =>
    let config := { config with streams := config.streams.erase i }
    if config.streams = [] then config.suspended else config

/-- The block of `streamRemove` calls `streamSuspend`. -/
def StreamConfiguration.Empties (config : StreamConfiguration) (streamAddress : NetAddr) : Prop :=
  ∃ i, config.find streamAddress = some i ∧ config.streams.erase i = []

section Suspend

variable {config config' : StreamConfiguration} {address : NetAddr}

/-- A timer that is not active needs no callback. -/
theorem streamSuspend_iff : streamSuspend config = some config' ↔
    (config.active = true → config.suspendCallback = true) ∧ config' = config.suspended := by
  unfold streamSuspend StreamConfiguration.suspended
  cases config.active with
  | false =>
    rw [if_neg Bool.false_ne_true, if_neg Bool.false_ne_true, Option.some_inj]
    exact ⟨fun h => ⟨nofun, h.symm⟩, fun h => h.2.symm⟩
  | true =>
    rw [if_pos rfl, if_pos rfl]
    cases config.suspendCallback with
    | false => exact ⟨nofun, fun h => nomatch h.1 rfl⟩
    | true =>
      rw [if_pos rfl, Option.some_inj]
      exact ⟨fun h => ⟨fun _ => rfl, h.symm⟩, fun h => h.2.symm⟩

theorem streamRemoveBlock_iff : streamRemoveBlock config address = some config' ↔
    (config.Empties address → config.active = true → config.suspendCallback = true) ∧
      config' = config.removed address := by
  unfold streamRemoveBlock StreamConfiguration.removed StreamConfiguration.Empties
  cases config.find address with
  | none =>
    rw [Option.some_inj]
    exact ⟨fun h => ⟨fun ⟨_, hfind, _⟩ => (nomatch hfind), h.symm⟩, fun h => h.2.symm⟩
  | some i =>
    dsimp only
    rcases Decidable.em (config.streams.erase i = []) with hempty | hne
    · rw [if_pos hempty, if_pos hempty, streamSuspend_iff]
      exact ⟨fun h => ⟨fun _ => h.1, h.2⟩, fun h => ⟨h.1 ⟨i, rfl, hempty⟩, h.2⟩⟩
    · rw [if_neg hne, if_neg hne, Option.some_inj]
      refine ⟨fun h => ⟨?_, h.symm⟩, fun h => h.2.symm⟩
      rintro ⟨_, hfind, hempty⟩
      cases hfind
      exact absurd hempty hne

end Suspend

/-! ## Steps -/

def StreamAction.isTick : StreamAction → Bool
  | .tick _ => true
  | _ => false

inductive StreamMove (config : StreamConfiguration) : StreamAction → StreamConfiguration → Prop
  | quiet {action : StreamAction} {config' : StreamConfiguration} (h : Quiet config config')
    (htick : action.isTick = false) : StreamMove config action config'
  | suspended : StreamMove config .suspend config.suspended
  | resumed : StreamMove config .resume (streamResume config)
  | added {stack : StreamObject} (rest : List StreamBlock) (address : NetAddr) :
    StreamMove config (.block stack)
      (streamAddBlock { config with streamDispatchQueue := rest } address)
  | removed {stack : StreamObject} (rest : List StreamBlock) (address : NetAddr) :
    StreamMove config (.block stack)
      ({ config with streamDispatchQueue := rest }.removed address)
  | ticked {object : StreamObject} {config' : StreamConfiguration}
    (h : streamTimerCallback config object = some config') :
    StreamMove config (.tick object) config'

theorem streamStep_move {config config' : StreamConfiguration} {action : StreamAction}
    (hstep : streamStep config action = some config') : StreamMove config action config' := by
  cases action with
  | add address =>
    cases hstep
    exact .quiet (Quiet.refl.dispatch _) rfl
  | remove address =>
    cases hstep
    exact .quiet (Quiet.refl.dispatch _) rfl
  | suspend =>
    obtain ⟨-, rfl⟩ := streamSuspend_iff.1 hstep
    exact .suspended
  | resume =>
    cases hstep
    exact .resumed
  | tick updateObject => exact .ticked hstep
  | block stack =>
    simp only [streamStep] at hstep
    split at hstep
    · cases hstep
      exact .quiet .refl rfl
    · rename_i block rest hqueue
      have hpopped := quiet_popped config rest
      cases block with
      | add address =>
        cases hstep
        exact .added rest address
      | remove address =>
        obtain ⟨-, rfl⟩ := streamRemoveBlock_iff.1 hstep
        exact .removed rest address
      | timeout i =>
        cases hstep
        exact .quiet (streamTimeoutBlock_quiet hpopped i) rfl
      | receive packet => exact .quiet (streamReceiveBlock_quiet hpopped hstep) rfl
  | read recvfrom =>
    simp only [streamStep] at hstep
    split at hstep <;> cases hstep
    · exact .quiet (Quiet.refl.onSocket _) rfl
    · exact .quiet (Quiet.refl.queues rfl rfl rfl rfl rfl rfl rfl) rfl
  | callback i =>
    simp only [streamStep] at hstep
    split at hstep <;> cases hstep
    · exact .quiet .refl rfl
    · exact .quiet (Quiet.refl.queues rfl rfl rfl rfl rfl rfl rfl) rfl
  | socketBlock =>
    cases hstep
    exact .quiet (Quiet.refl.onSocket _) rfl
  | write =>
    cases hstep
    exact .quiet (Quiet.refl.onSocket _) rfl

end UniversalNetwork
