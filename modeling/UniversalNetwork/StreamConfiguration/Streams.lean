import UniversalNetwork.StreamConfiguration.Pace
import Mathlib.Data.List.Count

/-!
# What a step does to each stream

Where `Moves` says what a step leaves alone, this module says what it does to the streams and which
timeouts it queues up. `StreamsMove` has one case for each kind of step: a tick updates every stream
of the list and may then send on it, a block of the queue accepts a packet for one stream or times
one out or creates one, and all other steps leave the streams as they are (`streamStep_streams`).
-/

namespace UniversalNetwork

open Lib

/-! ## Blocks -/

/-- The block that the step runs. -/
def StreamConfiguration.head (config : StreamConfiguration) : StreamAction → Option StreamBlock
  | .block _ => config.streamDispatchQueue.head?
  | _ => none

/-- The stream for which `streamReceive` accepts the packet. -/
def acceptedStream (config : StreamConfiguration) (packet : Nat) : Option Nat := do
  let ((result, _, ack, _), socket) ←
    config.socket.onBitstream packet (streamProtocolUnpackHeader 0 0 0)
  if result = .valid then
    let i ← config.find (socket.packet packet).addr
    if ack.toNat ≤ (config.memory i).reliability.sequence then some i else none
  else none

/-- The stream for which the step accepts a packet. -/
def StreamConfiguration.accepts (config : StreamConfiguration) (action : StreamAction) :
    Option Nat :=
  match config.head action with
  | some (.receive packet) => acceptedStream config packet
  | _ => none

/-- The stream for which the step calls `timeoutCallback`. -/
def StreamConfiguration.timesOut (config : StreamConfiguration) (action : StreamAction) :
    Option Nat :=
  match config.head action with
  | some (.timeout i) => some i
  | _ => none

/-- The timeouts of a stream that are queued up. -/
def StreamConfiguration.pending (config : StreamConfiguration) (i : Nat) : Nat :=
  config.streamDispatchQueue.count (.timeout i)

section Steps

variable {config config' : StreamConfiguration} {i : Nat}

/-! ## Received packets -/

/-- What becomes of a received packet. -/
theorem streamReceiveBlock_cases {packet : Nat} {stack : StreamObject}
    (h : streamReceiveBlock config packet stack = some config') :
    (acceptedStream config packet = none ∧ config'.memory = config.memory ∧
      config'.log = config.log ∧ ∀ i, config'.pending i = config.pending i) ∨
    ∃ i sequence ack ackBits reliability object,
      acceptedStream config packet = some i ∧ ack ≤ (config.memory i).reliability.sequence ∧
      streamReliabilityPacketReceived (config.memory i).reliability sequence ack ackBits =
        some reliability ∧
      config'.memory = Function.update config.memory i
        { config.memory i with timeoutAccumulator := 0, reliability } ∧
      config'.log = config.log ++ [.receive (config.memory i).address object] ∧
      ∀ i, config'.pending i = config.pending i := by
  -- where the header is read, the rest of `acceptedStream` is its tests
  have haccepted : ∀ {result sequence ack ackBitField socket},
      config.socket.onBitstream packet (streamProtocolUnpackHeader 0 0 0) =
        some ((result, sequence, ack, ackBitField), socket) →
      acceptedStream config packet =
        if result = .valid then
          (config.find (socket.packet packet).addr).bind fun i =>
            if ack.toNat ≤ (config.memory i).reliability.sequence then some i else none
        else none := by
    intro result sequence ack ackBitField socket hheader
    simp only [acceptedStream, hheader, Option.bind_eq_bind, Option.bind_some]
  cases streamReceiveBlock_receive h with
  | invalid hheader hinvalid =>
    rw [haccepted hheader, if_neg hinvalid]
    exact .inl ⟨rfl, rfl, rfl, fun _ => rfl⟩
  | unknown hheader hfind =>
    rw [haccepted hheader, if_pos rfl, hfind]
    refine .inl ⟨rfl, rfl, rfl, fun i => ?_⟩
    simp [StreamConfiguration.pending, StreamConfiguration.onSocket, streamAdd,
      StreamConfiguration.dispatch]
  | @known i sequence ack ackBitField _ _ _ object _ _ hheader hfind _ hreceive _ hset =>
    subst hset
    rw [haccepted hheader, if_pos rfl, hfind, Option.bind_some]
    unfold streamReceive at hreceive
    split at hreceive
    · rename_i hack
      obtain ⟨reliability, hreliability, hreceive⟩ := Option.bind_eq_some_iff.1 hreceive
      cases hreceive
      exact .inr ⟨i, sequence.toNat, ack.toNat, ackBitField.toBitVec, reliability, object,
        if_pos hack, hack, hreliability, rfl, rfl, fun _ => rfl⟩
    · rename_i hack
      cases hreceive
      exact .inl ⟨if_neg hack, Function.update_eq_self _ _, rfl, fun _ => rfl⟩

/-! ## Ticks -/

/-- A stream after a tick: updated, and then perhaps with one more packet sent. -/
inductive Ticked (stream : Stream) : Stream → Prop
  | updated {due : Bool} {stream' : Stream} (h : stream.update = some (due, stream')) :
    Ticked stream stream'
  | sent {due : Bool} {stream' : Stream} {size : Nat} {reliability : StreamReliability}
    (h : stream.update = some (due, stream'))
    (hsent : streamReliabilityPacketSent stream'.reliability size = some reliability) :
    Ticked stream { stream' with reliability }

theorem streamSend_eq {object : StreamObject} (h : streamSend config i object = some config') :
    config'.streamDispatchQueue = config.streamDispatchQueue ∧
    (config'.memory = config.memory ∨ ∃ size reliability,
      streamReliabilityPacketSent (config.memory i).reliability size = some reliability ∧
      config'.memory = Function.update config.memory i { config.memory i with reliability }) := by
  cases streamSend_cases h with
  | skipped _ => exact ⟨rfl, .inl rfl⟩
  | sent _ _ _ _ hsent => exact ⟨rfl, .inr ⟨_, _, hsent, rfl⟩⟩

theorem sendStreams_eq {object : StreamObject} {streams : List Nat} :
    ∀ {config : StreamConfiguration}, streams.Nodup →
      sendStreams object streams config = some config' →
      config'.streamDispatchQueue = config.streamDispatchQueue ∧
      ∀ i, config'.memory i = config.memory i ∨ i ∈ streams ∧ ∃ size reliability,
        streamReliabilityPacketSent (config.memory i).reliability size = some reliability ∧
        config'.memory i = { config.memory i with reliability } := by
  induction streams with
  | nil =>
    intro config _ h
    cases h
    exact ⟨rfl, fun _ => .inl rfl⟩
  | cons j streams ih =>
    intro config hnodup h
    obtain ⟨hj, hnodup⟩ := List.nodup_cons.1 hnodup
    obtain ⟨config₁, hsend, h⟩ := Option.bind_eq_some_iff.1 h
    obtain ⟨hqueue, hmemory⟩ := streamSend_eq hsend
    obtain ⟨hqueue', hrest⟩ := ih hnodup h
    refine ⟨hqueue'.trans hqueue, fun i => ?_⟩
    rcases hmemory with hmemory | ⟨size, reliability, hsent, hmemory⟩
    · rw [hmemory] at hrest
      exact (hrest i).imp_right fun hsent => ⟨List.mem_cons_of_mem _ hsent.1, hsent.2⟩
    · by_cases hi : i = j
      · subst hi
        refine .inr ⟨List.mem_cons_self, size, reliability, hsent, ?_⟩
        rcases hrest i with heq | ⟨hmem, -⟩
        · rw [heq, hmemory, Function.update_self]
        · exact absurd hmem hj
      · have hkeep : config₁.memory i = config.memory i := by
          rw [hmemory, Function.update_of_ne hi]
        have hcase := hrest i
        rw [hkeep] at hcase
        exact hcase.imp_right fun hsent => ⟨List.mem_cons_of_mem _ hsent.1, hsent.2⟩

/-- The timeouts that a tick queues up: one for each stream whose time is over. -/
theorem updateStreams_queue {streams : List Nat} : ∀ {config : StreamConfiguration}
    {syncUpdate : Bool}, streams.Nodup →
    updateStreams streams config = some (syncUpdate, config') →
      config'.streamDispatchQueue = config.streamDispatchQueue ++
        (streams.filter fun i => (config'.memory i).timeoutAccumulator > kStreamTimeout).map
          .timeout := by
  induction streams with
  | nil =>
    intro config syncUpdate _ h
    cases h
    simp
  | cons i streams ih =>
    intro config syncUpdate hnodup h
    obtain ⟨hi, hnodup⟩ := List.nodup_cons.1 hnodup
    obtain ⟨⟨shouldUpdate, config₁⟩, hupdate, h⟩ := Option.bind_eq_some_iff.1 h
    obtain ⟨⟨syncUpdate', config₂⟩, hrest, h⟩ := Option.bind_eq_some_iff.1 h
    cases h
    obtain ⟨-, hother, -⟩ := updateStreams_eq hnodup hrest
    rw [ih hnodup hrest, List.filter_cons]
    obtain ⟨⟨due, stream⟩, -, hupdate⟩ := Option.bind_eq_some_iff.1 hupdate
    dsimp only at hupdate
    split at hupdate
    · rename_i hover
      cases hupdate
      have hself : (config'.memory i).timeoutAccumulator > kStreamTimeout := by
        rw [hother i hi]
        simpa [StreamConfiguration.setStream, StreamConfiguration.dispatch] using hover
      simp [hself, StreamConfiguration.dispatch, StreamConfiguration.setStream]
    · rename_i hover
      cases hupdate
      have hself : ¬ (config'.memory i).timeoutAccumulator > kStreamTimeout := by
        rw [hother i hi]
        simpa [StreamConfiguration.setStream] using hover
      simp [hself, StreamConfiguration.setStream]

theorem Ticked.accumulator {stream stream' : Stream} (h : Ticked stream stream') :
    stream'.timeoutAccumulator = stream.timeoutAccumulator + kStreamTimerUpdateInterval := by
  have hupdate : ∀ {due : Bool} {stream' : Stream}, stream.update = some (due, stream') →
      stream'.timeoutAccumulator = stream.timeoutAccumulator + kStreamTimerUpdateInterval := by
    intro due stream' h
    obtain ⟨reliability, -, h⟩ := Option.bind_eq_some_iff.1 h
    dsimp only at h
    split at h <;> cases h <;> rfl
  cases h with
  | updated h => exact hupdate h
  | @sent due stream' size reliability h hsent =>
    show stream'.timeoutAccumulator = _
    exact hupdate h

/-- All streams through one tick, and the timeouts it queues up. -/
theorem streamTimerCallback_streams (htable : StreamTable config) {object : StreamObject}
    (h : streamTimerCallback config object = some config') :
    (∀ i, i ∉ config.streams → config'.memory i = config.memory i) ∧
    (∀ i ∈ config.streams, Ticked (config.memory i) (config'.memory i)) ∧
    ∀ i, config'.pending i = config.pending i +
      if i ∈ config.streams ∧ (config'.memory i).timeoutAccumulator > kStreamTimeout then 1
      else 0 := by
  have hpending : ∀ {syncUpdate config₁},
      updateStreams config.streams config = some (syncUpdate, config₁) →
      ∀ i, config₁.pending i = config.pending i +
        if i ∈ config.streams ∧ (config₁.memory i).timeoutAccumulator > kStreamTimeout then 1
        else 0 := by
    intro syncUpdate config₁ hupdate i
    have hinj : Function.Injective StreamBlock.timeout := fun _ _ heq => StreamBlock.timeout.inj heq
    have honce : (config.streams.filter fun i =>
        (config₁.memory i).timeoutAccumulator > kStreamTimeout).Nodup := htable.nodup.filter _
    rw [StreamConfiguration.pending, updateStreams_queue htable.nodup hupdate, List.count_append,
      List.count_map_of_injective _ _ hinj, List.Nodup.count honce]
    simp [StreamConfiguration.pending]
  cases streamTimerCallback_tick h with
  | idle hnil => simp [hnil]
  | updated _ hupdate =>
    obtain ⟨-, hother, due, -, hupdates⟩ := updateStreams_eq htable.nodup hupdate
    exact ⟨hother, fun i hi => .updated (hupdates i hi), hpending hupdate⟩
  | @sent config₁ _ _ hupdate hsend =>
    obtain ⟨-, hother, due, -, hupdates⟩ := updateStreams_eq htable.nodup hupdate
    have hlist := (updateStreams_same hupdate).streams
    have hnodup : config₁.streams.Nodup := hlist ▸ htable.nodup
    obtain ⟨hqueue', hsends⟩ := sendStreams_eq hnodup hsend
    have hmemory : ∀ i, config'.memory i = config₁.memory i ∨ i ∈ config.streams ∧
        ∃ size reliability,
          streamReliabilityPacketSent (config₁.memory i).reliability size = some reliability ∧
          config'.memory i = { config₁.memory i with reliability } := by
      intro i
      have hcase := hsends i
      rwa [hlist] at hcase
    have haccumulator : ∀ i, (config'.memory i).timeoutAccumulator =
        (config₁.memory i).timeoutAccumulator := by
      intro i
      rcases hmemory i with heq | ⟨-, size, reliability, -, heq⟩ <;> rw [heq]
    refine ⟨fun i hi => ?_, fun i hi => ?_, fun i => ?_⟩
    · rcases hmemory i with heq | ⟨hmem, -⟩
      · rw [heq, hother i hi]
      · exact absurd hmem hi
    · rcases hmemory i with heq | ⟨-, size, reliability, hsent, heq⟩
      · rw [heq]
        exact .updated (hupdates i hi)
      · rw [heq]
        exact .sent (hupdates i hi) hsent
    · rw [haccumulator, ← hpending hupdate i, StreamConfiguration.pending, hqueue']
      rfl

/-! ## Steps -/

/-- What a step does to the streams. -/
inductive StreamsMove (config : StreamConfiguration) (action : StreamAction)
    (config' : StreamConfiguration) : Prop
  | kept (haccepts : config.accepts action = none) (htimes : config.timesOut action = none)
    (htick : action.isTick = false) (hmemory : config'.memory = config.memory)
    (hcount : config'.streamCount = config.streamCount) (hlist : config'.streams ⊆ config.streams)
    (hpending : ∀ i, config'.pending i = config.pending i)
  | created (haccepts : config.accepts action = none) (htimes : config.timesOut action = none)
    (htick : action.isTick = false) (address : NetAddr)
    (hmemory : config'.memory =
      Function.update config.memory config.streamCount (streamCreate address))
    (hcount : config'.streamCount = config.streamCount + 1)
    (hlist : config'.streams = config.streams ++ [config.streamCount])
    (hpending : ∀ i, config'.pending i = config.pending i)
  | ticked (haccepts : config.accepts action = none) (htimes : config.timesOut action = none)
    (htick : action.isTick = true)
    (hother : ∀ i, i ∉ config.streams → config'.memory i = config.memory i)
    (hticked : ∀ i ∈ config.streams, Ticked (config.memory i) (config'.memory i))
    (hcount : config'.streamCount = config.streamCount) (hlist : config'.streams = config.streams)
    (hpending : ∀ i, config'.pending i = config.pending i +
      if i ∈ config.streams ∧ (config'.memory i).timeoutAccumulator > kStreamTimeout then 1 else 0)
  | timedOut (i : Nat) (haccepts : config.accepts action = none)
    (htimes : config.timesOut action = some i) (htick : action.isTick = false)
    (hmemory : config'.memory =
      Function.update config.memory i { config.memory i with state := .timeout })
    (hcount : config'.streamCount = config.streamCount) (hlist : config'.streams = config.streams)
    (hpending : ∀ j, config.pending j = config'.pending j + if j = i then 1 else 0)
  | accepted (i sequence ack : Nat) (ackBits : BitVec 32) (reliability : StreamReliability)
    (haccepts : config.accepts action = some i) (htimes : config.timesOut action = none)
    (htick : action.isTick = false) (hack : ack ≤ (config.memory i).reliability.sequence)
    (hreceived : streamReliabilityPacketReceived (config.memory i).reliability sequence ack ackBits =
      some reliability)
    (hmemory : config'.memory = Function.update config.memory i
      { config.memory i with timeoutAccumulator := 0, reliability })
    (hcount : config'.streamCount = config.streamCount) (hlist : config'.streams = config.streams)
    (hpending : ∀ j, config'.pending j = config.pending j)

theorem streamsMove_add {action : StreamAction} (haccepts : config.accepts action = none)
    (htimes : config.timesOut action = none) (htick : action.isTick = false)
    {rest : List StreamBlock}
    (hpending : ∀ i, rest.count (.timeout i) = config.pending i) (address : NetAddr) :
    StreamsMove config action
      (streamAddBlock { config with streamDispatchQueue := rest } address) := by
  unfold streamAddBlock
  split
  · exact .kept haccepts htimes htick rfl rfl (List.Subset.refl _) hpending
  · refine .created haccepts htimes htick address ?_ ?_ ?_ fun i => ?_ <;>
      unfold streamResume addStream StreamConfiguration.setStream <;> split
    all_goals first | rfl | exact hpending i

theorem streamsMove_remove {action : StreamAction} (haccepts : config.accepts action = none)
    (htimes : config.timesOut action = none) (htick : action.isTick = false)
    {rest : List StreamBlock}
    (hpending : ∀ i, rest.count (.timeout i) = config.pending i) (address : NetAddr) :
    StreamsMove config action
      ({ config with streamDispatchQueue := rest }.removed address) := by
  unfold StreamConfiguration.removed
  split
  · exact .kept haccepts htimes htick rfl rfl (List.Subset.refl _) hpending
  · dsimp only
    split
    · refine .kept haccepts htimes htick ?_ ?_ ?_ fun i => ?_ <;>
        unfold StreamConfiguration.suspended <;> split
      all_goals first | rfl | exact hpending i | exact List.erase_subset
    · exact .kept haccepts htimes htick rfl rfl List.erase_subset hpending

theorem streamStep_streams (htable : StreamTable config) {action : StreamAction}
    (hstep : streamStep config action = some config') : StreamsMove config action config' := by
  cases action with
  | add address | remove address =>
    cases hstep
    refine .kept rfl rfl rfl rfl rfl (List.Subset.refl _) fun i => ?_
    simp [StreamConfiguration.pending, streamAdd, streamRemove, StreamConfiguration.dispatch]
  | suspend =>
    obtain ⟨-, rfl⟩ := streamSuspend_iff.1 hstep
    refine .kept rfl rfl rfl ?_ ?_ ?_ fun i => ?_ <;> unfold StreamConfiguration.suspended <;> split
    all_goals first | rfl | exact List.Subset.refl _
  | resume =>
    cases hstep
    refine .kept rfl rfl rfl ?_ ?_ ?_ fun i => ?_ <;> unfold streamResume <;> split
    all_goals first | rfl | exact List.Subset.refl _
  | tick updateObject =>
    have hsame := streamTimerCallback_same hstep
    obtain ⟨hother, hticked, hpending⟩ := streamTimerCallback_streams htable hstep
    exact .ticked rfl rfl rfl hother hticked hsame.streamCount hsame.streams hpending
  | block stack =>
    simp only [streamStep] at hstep
    split at hstep
    · rename_i hqueue
      cases hstep
      refine .kept ?_ ?_ rfl rfl rfl (List.Subset.refl _) fun _ => rfl
      · simp [StreamConfiguration.accepts, StreamConfiguration.head, hqueue]
      · simp [StreamConfiguration.timesOut, StreamConfiguration.head, hqueue]
    · rename_i block rest hqueue
      have hhead : config.head (.block stack) = some block := by
        simp [StreamConfiguration.head, hqueue]
      cases block with
      | add address =>
        cases hstep
        refine streamsMove_add (by simp [StreamConfiguration.accepts, hhead])
          (by simp [StreamConfiguration.timesOut, hhead]) rfl (fun i => ?_) address
        simp [StreamConfiguration.pending, hqueue]
      | remove address =>
        obtain ⟨-, rfl⟩ := streamRemoveBlock_iff.1 hstep
        refine streamsMove_remove (by simp [StreamConfiguration.accepts, hhead])
          (by simp [StreamConfiguration.timesOut, hhead]) rfl (fun i => ?_) address
        simp [StreamConfiguration.pending, hqueue]
      | timeout i =>
        cases hstep
        refine .timedOut i (by simp [StreamConfiguration.accepts, hhead])
          (by simp [StreamConfiguration.timesOut, hhead]) rfl rfl rfl rfl fun j => ?_
        have hrest : (streamTimeoutBlock { config with streamDispatchQueue := rest } i).pending j =
            rest.count (.timeout j) := rfl
        rw [StreamConfiguration.pending, hqueue, List.count_cons, hrest]
        by_cases hj : j = i
        · simp [hj]
        · simp [hj, Ne.symm hj]
      | receive packet =>
        have haccepts : config.accepts (.block stack) = acceptedStream config packet := by
          simp [StreamConfiguration.accepts, hhead]
        have htimes : config.timesOut (.block stack) = none := by
          simp [StreamConfiguration.timesOut, hhead]
        have hsame := (streamReceiveBlock_quiet .refl hstep).sameTable
        have hpopped : ∀ i, rest.count (.timeout i) = config.pending i := by
          intro i
          simp [StreamConfiguration.pending, hqueue]
        rcases streamReceiveBlock_cases hstep with ⟨hnone, hmemory, -, hpending⟩ |
          ⟨i, sequence, ack, ackBits, reliability, object, hsome, hack, hreceived, hmemory, -,
            hpending⟩
        · exact .kept (haccepts.trans hnone) htimes rfl hmemory hsame.streamCount
              (fun _ hi => hsame.streams ▸ hi)
            fun i => (hpending i).trans (hpopped i)
        · exact .accepted i sequence ack ackBits reliability (haccepts.trans hsome) htimes rfl hack
            hreceived hmemory hsame.streamCount hsame.streams
            fun i => (hpending i).trans (hpopped i)
  | read recvfrom =>
    simp only [streamStep] at hstep
    split at hstep <;> cases hstep <;>
      exact .kept rfl rfl rfl rfl rfl (List.Subset.refl _) fun _ => rfl
  | callback i =>
    simp only [streamStep] at hstep
    split at hstep <;> cases hstep
    · exact .kept rfl rfl rfl rfl rfl (List.Subset.refl _) fun _ => rfl
    · refine .kept rfl rfl rfl rfl rfl (List.Subset.refl _) fun i => ?_
      simp [StreamConfiguration.pending, StreamConfiguration.dispatch]
  | socketBlock | write =>
    cases hstep
    exact .kept rfl rfl rfl rfl rfl (List.Subset.refl _) fun _ => rfl

end Steps

end UniversalNetwork
