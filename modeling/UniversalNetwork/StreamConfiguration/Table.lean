import UniversalNetwork.StreamConfiguration.Moves

/-!
# The table of streams

`StreamTable`: the streams of the list have pairwise different addresses, an active configuration
has a stream, and the timer is suspended once exactly while the configuration is not active.

Quiet changes and ticks leave the table alone (`SameTable`); what is left are the blocks that add and
remove a stream and the calls that suspend and resume the timer. `stream_table` is the invariant in
every run, with one call of `suspendCallback` for each time the configuration becomes inactive.
-/

namespace UniversalNetwork

open Lib

structure StreamTable (config : StreamConfiguration) : Prop where
  different : config.streams.Pairwise fun i j =>
    netAddrIsEqual (config.memory i).address (config.memory j).address = false
  created : ∀ i ∈ config.streams, i < config.streamCount
  nonempty : config.active = true → config.streams ≠ []
  suspended : config.timerSuspendCount = if config.active then 0 else 1

/-- The list, the addresses, the timer and the callback are left alone. -/
structure SameTable (config config' : StreamConfiguration) : Prop where
  streams : config'.streams = config.streams
  streamCount : config'.streamCount = config.streamCount
  address : ∀ i, (config'.memory i).address = (config.memory i).address
  active : config'.active = config.active
  timerSuspendCount : config'.timerSuspendCount = config.timerSuspendCount
  suspendCallback : config'.suspendCallback = config.suspendCallback
  suspends : config'.log.count .suspend = config.log.count .suspend

section Same

variable {config config' config'' : StreamConfiguration} {i : Nat} {stream : Stream}

theorem SameTable.refl (config : StreamConfiguration) : SameTable config config :=
  ⟨rfl, rfl, fun _ => rfl, rfl, rfl, rfl, rfl⟩

theorem SameTable.trans (h : SameTable config config') (h' : SameTable config' config'') :
    SameTable config config'' where
  streams := h'.streams.trans h.streams
  streamCount := h'.streamCount.trans h.streamCount
  address := fun i => (h'.address i).trans (h.address i)
  active := h'.active.trans h.active
  timerSuspendCount := h'.timerSuspendCount.trans h.timerSuspendCount
  suspendCallback := h'.suspendCallback.trans h.suspendCallback
  suspends := h'.suspends.trans h.suspends

theorem sameTable_dispatch (config : StreamConfiguration) (block : StreamBlock) :
    SameTable config (config.dispatch block) :=
  ⟨rfl, rfl, fun _ => rfl, rfl, rfl, rfl, rfl⟩

theorem sameTable_note (config : StreamConfiguration) (event : StreamEvent)
    (h : event ≠ .suspend) : SameTable config (config.note event) := by
  refine ⟨rfl, rfl, fun _ => rfl, rfl, rfl, rfl, ?_⟩
  simp [StreamConfiguration.note, h]

theorem sameTable_setStream (h : stream.address = (config.memory i).address) :
    SameTable config (config.setStream i stream) := by
  refine ⟨rfl, rfl, fun j => ?_, rfl, rfl, rfl, rfl⟩
  by_cases hj : j = i
  · subst hj
    simp [StreamConfiguration.setStream, h]
  · simp [StreamConfiguration.setStream, hj]

theorem Quiet.sameTable (h : Quiet config config') : SameTable config config' := by
  induction h with
  | refl => exact .refl config
  | queues _ hstreams hcount hmemory hactive htimer hcallback hlog ih =>
    refine ih.trans ⟨hstreams, hcount, fun i => ?_, hactive, htimer, hcallback, ?_⟩
    · rw [hmemory]
    · rw [hlog]
  | note _ event _ hsuspend ih => exact ih.trans (sameTable_note _ event hsuspend)
  | setStream _ i stream haddress _ _ ih => exact ih.trans (sameTable_setStream haddress)

/-! ## Ticks leave the table alone -/

theorem update_address {shouldUpdate : Bool} {stream' : Stream}
    (h : stream.update = some (shouldUpdate, stream')) : stream'.address = stream.address := by
  obtain ⟨reliability, -, h⟩ := Option.bind_eq_some_iff.1 h
  dsimp only at h
  split at h <;> cases h <;> rfl

theorem streamUpdate_same {shouldUpdate : Bool}
    (h : streamUpdate config i = some (shouldUpdate, config')) : SameTable config config' := by
  obtain ⟨⟨shouldUpdate', stream⟩, hupdate, h⟩ := Option.bind_eq_some_iff.1 h
  have hset := sameTable_setStream (update_address hupdate)
  dsimp only at h
  split at h <;> cases h
  · exact hset.trans (sameTable_dispatch _ _)
  · exact hset

theorem updateStreams_same {streams : List Nat} : ∀ {config : StreamConfiguration}
    {syncUpdate : Bool}, updateStreams streams config = some (syncUpdate, config') →
      SameTable config config' := by
  induction streams with
  | nil =>
    intro config syncUpdate h
    cases h
    exact .refl _
  | cons i streams ih =>
    intro config syncUpdate h
    obtain ⟨⟨shouldUpdate, config₁⟩, hupdate, h⟩ := Option.bind_eq_some_iff.1 h
    obtain ⟨⟨syncUpdate', config₂⟩, hrest, h⟩ := Option.bind_eq_some_iff.1 h
    cases h
    exact (streamUpdate_same hupdate).trans (ih hrest)

theorem streamTimerCallback_same {object : StreamObject}
    (h : streamTimerCallback config object = some config') : SameTable config config' := by
  cases streamTimerCallback_tick h with
  | idle _ => exact .refl _
  | updated _ hupdate => exact updateStreams_same hupdate
  | sent _ hupdate hsend =>
    have hsame := updateStreams_same hupdate
    exact (hsame.trans (sameTable_note _ .update nofun)).trans (sendStreams_quiet .refl hsend).sameTable

end Same

/-! ## What changes the table -/

/-- From active to inactive. -/
def Deactivates (config config' : StreamConfiguration) : Prop :=
  config.active = true ∧ config'.active = false

instance (config config' : StreamConfiguration) : Decidable (Deactivates config config') :=
  inferInstanceAs (Decidable (_ ∧ _))

/-- `suspendCallback` is called once if the step makes the configuration inactive, else not. -/
def SuspendsOnce (config config' : StreamConfiguration) : Prop :=
  config'.log.count .suspend =
    config.log.count .suspend + if Deactivates config config' then 1 else 0

section Changes

variable {config config' : StreamConfiguration}

theorem StreamTable.same (h : StreamTable config) (hs : SameTable config config') :
    StreamTable config' := by
  refine ⟨?_, ?_, ?_, ?_⟩
  · simpa only [hs.streams, hs.address] using h.different
  · simpa only [hs.streams, hs.streamCount] using h.created
  · simpa only [hs.streams, hs.active] using h.nonempty
  · simpa only [hs.timerSuspendCount, hs.active] using h.suspended

theorem SameTable.suspendsOnce (h : SameTable config config') : SuspendsOnce config config' := by
  have hnot : ¬Deactivates config config' := by
    rintro ⟨hactive, hinactive⟩
    rw [h.active, hactive] at hinactive
    cases hinactive
  rw [SuspendsOnce, if_neg hnot, h.suspends, Nat.add_zero]

theorem suspended_once (config : StreamConfiguration) :
    SuspendsOnce config config.suspended := by
  unfold StreamConfiguration.suspended
  split
  · rename_i hactive
    simp [SuspendsOnce, Deactivates, StreamConfiguration.note, hactive]
  · exact (SameTable.refl config).suspendsOnce

theorem streamResume_once (config : StreamConfiguration) :
    SuspendsOnce config (streamResume config) := by
  unfold streamResume
  split
  · simp [SuspendsOnce, Deactivates]
  · exact (SameTable.refl config).suspendsOnce

theorem StreamTable.suspend (h : StreamTable config) : StreamTable config.suspended := by
  have hsuspended := h.suspended
  unfold StreamConfiguration.suspended
  split
  · rename_i hactive
    rw [if_pos hactive] at hsuspended
    refine ⟨h.different, h.created, nofun, ?_⟩
    show config.timerSuspendCount + 1 = 1
    omega
  · exact h

theorem StreamTable.resume (h : StreamTable config) : StreamTable (streamResume config) := by
  have hsuspended := h.suspended
  unfold streamResume
  split
  · rename_i hcondition
    rw [if_neg (by simp [hcondition.1])] at hsuspended
    refine ⟨h.different, h.created, fun _ => hcondition.2, ?_⟩
    show config.timerSuspendCount - 1 = 0
    omega
  · exact h

/-- A search that fails has compared the address with all of the list. -/
theorem find_eq_none {address : NetAddr} (h : config.find address = none) :
    ∀ i ∈ config.streams, netAddrIsEqual (config.memory i).address address = false := by
  intro i hi
  simpa using List.find?_eq_none.1 h i hi

theorem StreamTable.add (h : StreamTable config) {address : NetAddr}
    (hfind : config.find address = none) : StreamTable (addStream config address) := by
  have hold : ∀ i ∈ config.streams, (addStream config address).memory i = config.memory i := by
    intro i hi
    have hne : i ≠ config.streamCount := Nat.ne_of_lt (h.created i hi)
    simp [addStream, StreamConfiguration.setStream, hne]
  have hnew : ((addStream config address).memory config.streamCount).address = address := by
    simp [addStream, StreamConfiguration.setStream, streamCreate]
  refine ⟨?_, ?_, ?_, h.suspended⟩
  · refine List.pairwise_append.2 ⟨?_, List.pairwise_singleton _ _, ?_⟩
    · refine h.different.imp_of_mem fun {i j} hi hj hij => ?_
      rw [hold i hi, hold j hj]
      exact hij
    · intro i hi j hj
      rw [List.mem_singleton.1 hj, hold i hi, hnew]
      exact find_eq_none hfind i hi
  · intro i hi
    rcases List.mem_append.1 hi with hi | hi
    · exact Nat.lt_succ_of_lt (h.created i hi)
    · rw [List.mem_singleton.1 hi]
      exact Nat.lt_succ_self _
  · exact fun _ => List.append_ne_nil_of_right_ne_nil _ nofun

theorem StreamTable.addBlock (h : StreamTable config) (address : NetAddr) :
    StreamTable (streamAddBlock config address) ∧
      SuspendsOnce config (streamAddBlock config address) := by
  unfold streamAddBlock
  split
  · exact ⟨h, (SameTable.refl config).suspendsOnce⟩
  · rename_i hfind
    exact ⟨(h.add hfind).resume, streamResume_once (addStream config address)⟩

/-- Without one stream; with none left the configuration must not stay active. -/
theorem StreamTable.erase (h : StreamTable config) (i : Nat) :
    let config' := { config with streams := config.streams.erase i }
    StreamTable (if config'.streams = [] then config'.suspended else config') ∧
      SuspendsOnce config (if config'.streams = [] then config'.suspended else config') := by
  intro config'
  have hdifferent := h.different.sublist (List.erase_sublist (a := i))
  have hcreated : ∀ j ∈ config'.streams, j < config'.streamCount :=
    fun j hj => h.created j (List.mem_of_mem_erase hj)
  have hsuspended := h.suspended
  by_cases hempty : config'.streams = []
  · rw [if_pos hempty]
    refine ⟨?_, suspended_once config'⟩
    unfold StreamConfiguration.suspended
    split
    · rename_i hactive
      rw [if_pos hactive] at hsuspended
      refine ⟨hdifferent, hcreated, nofun, ?_⟩
      show config.timerSuspendCount + 1 = 1
      omega
    · rename_i hactive
      exact ⟨hdifferent, hcreated, fun hactive' => absurd hactive' hactive, h.suspended⟩
  · rw [if_neg hempty]
    exact ⟨⟨hdifferent, hcreated, fun _ => hempty, h.suspended⟩,
      (SameTable.refl config).suspendsOnce⟩

theorem StreamTable.removeBlock (h : StreamTable config) (address : NetAddr) :
    StreamTable (config.removed address) ∧
      SuspendsOnce config (config.removed address) := by
  unfold StreamConfiguration.removed
  split
  · exact ⟨h, (SameTable.refl config).suspendsOnce⟩
  · exact h.erase _

/-! ## Steps and runs -/

theorem StreamTable.ofSame (h : StreamTable config) (hs : SameTable config config') :
    StreamTable config' ∧ SuspendsOnce config config' :=
  ⟨h.same hs, hs.suspendsOnce⟩

theorem streamStep_table (h : StreamTable config) {action : StreamAction}
    (hstep : streamStep config action = some config') :
    StreamTable config' ∧ SuspendsOnce config config' := by
  cases streamStep_move hstep with
  | quiet hquiet _ => exact h.ofSame hquiet.sameTable
  | suspended => exact ⟨h.suspend, suspended_once config⟩
  | resumed => exact ⟨h.resume, streamResume_once config⟩
  | added rest address => exact (h.same (quiet_popped config rest).sameTable).addBlock address
  | removed rest address => exact (h.same (quiet_popped config rest).sameTable).removeBlock address
  | ticked htick => exact h.ofSame (streamTimerCallback_same htick)

theorem suspended_callback (config : StreamConfiguration) :
    config.suspended.suspendCallback = config.suspendCallback := by
  unfold StreamConfiguration.suspended
  split <;> rfl

theorem streamResume_callback (config : StreamConfiguration) :
    (streamResume config).suspendCallback = config.suspendCallback := by
  unfold streamResume
  split <;> rfl

/-- No step sets the callback. -/
theorem streamStep_callback {action : StreamAction}
    (hstep : streamStep config action = some config') :
    config'.suspendCallback = config.suspendCallback := by
  cases streamStep_move hstep with
  | quiet hquiet _ => exact hquiet.sameTable.suspendCallback
  | suspended => exact suspended_callback config
  | resumed => exact streamResume_callback config
  | added rest address =>
    unfold streamAddBlock
    split
    · rfl
    · exact streamResume_callback _
  | removed rest address =>
    unfold StreamConfiguration.removed
    split
    · rfl
    · dsimp only
      split
      · exact suspended_callback _
      · rfl
  | ticked htick => exact (streamTimerCallback_same htick).suspendCallback

end Changes

theorem streamSetup_table (packets : Nat → Vector UInt8 kNetPacketMaxLen)
    (suspendCallback : Bool) :
    StreamTable (streamSetup packets suspendCallback) :=
  ⟨List.Pairwise.nil, nofun, nofun, rfl⟩

/-- **The table of streams**, in every run. -/
theorem stream_table {packets : Nat → Vector UInt8 kNetPacketMaxLen} {suspendCallback : Bool}
    {actions : List StreamAction} {config : StreamConfiguration}
    (h : run streamStep (streamSetup packets suspendCallback) actions = some config) :
    (config.streams.Pairwise fun i j =>
      netAddrIsEqual (config.memory i).address (config.memory j).address = false) ∧
    (config.active = true → config.streams ≠ []) ∧
    config.timerSuspendCount = (if config.active then 0 else 1) ∧
    config.log.count .suspend =
      countSteps streamStep Deactivates (streamSetup packets suspendCallback) actions := by
  have hinv : StreamTable config ∧ config.log.count .suspend =
      countSteps streamStep Deactivates (streamSetup packets suspendCallback) actions := by
    refine (run_history (P := fun actions config =>
      run streamStep (streamSetup packets suspendCallback) actions = some config ∧ StreamTable config ∧
        config.log.count .suspend =
          countSteps streamStep Deactivates (streamSetup packets suspendCallback) actions) ?_ ?_ h).2
    · exact ⟨rfl, streamSetup_table packets suspendCallback, rfl⟩
    · rintro actions config action config' ⟨hrun, htable, hcount⟩ hstep
      obtain ⟨htable', honce⟩ := streamStep_table htable hstep
      refine ⟨run_snoc_eq_some.2 ⟨config, hrun, hstep⟩, htable', ?_⟩
      rw [honce, hcount, countSteps_snoc hrun hstep]
  exact ⟨hinv.1.different, hinv.1.nonempty, hinv.1.suspended, hinv.2⟩

/-- A stream is added twice, suspended, resumed and removed. -/
def addedTwice : List StreamAction :=
  [.add .zeroed, .add .zeroed, .block ⟨Vector.replicate _ 0, 0, 0⟩,
    .block ⟨Vector.replicate _ 0, 0, 0⟩, .suspend, .resume, .remove .zeroed,
    .block ⟨Vector.replicate _ 0, 0, 0⟩]

theorem stream_table_addedTwice : ∃ config,
    run streamStep (streamSetup (fun _ => Vector.replicate _ 0) true) addedTwice = some config ∧
      config.timerSuspendCount = 1 ∧ config.log.count .suspend = 2 := by
  have hrun : (run streamStep (streamSetup (fun _ => Vector.replicate _ 0) true) addedTwice).map
      (fun config => config.active) = some false := by
    decide +kernel
  have hcount : countSteps streamStep Deactivates (streamSetup (fun _ => Vector.replicate _ 0) true)
      addedTwice = 2 := by
    decide +kernel
  obtain ⟨config, h, hactive⟩ := Option.map_eq_some_iff.1 hrun
  obtain ⟨-, -, hsuspended, hsuspends⟩ := stream_table h
  refine ⟨config, h, ?_, hsuspends.trans hcount⟩
  rw [hsuspended, if_neg (by simp [hactive])]

end UniversalNetwork
