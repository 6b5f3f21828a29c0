import UniversalNetwork.StreamConfiguration.Table
import UniversalNetwork.StreamFlow.Modes
import Mathlib.Data.Rat.Floor
import Mathlib.Tactic.Linarith
import Mathlib.Tactic.NormNum

/-!
# When the streams send

A tick sends only if every stream of the list is due. A stream in good mode is due at every tick,
one in bad mode at every third, counted from its own start: `phase` is how many ticks ago it was
due last. A stream that is due starts over whether or not the tick sends, so streams in bad mode
keep their distance for good.

* `update_pace`: one stream through one tick.
* `streamTimerCallback_pace`: all streams through one tick, and whether it sends.
* `sends_iff_inPhase`: three ticks without change send exactly if the streams in bad mode are in
  phase.
-/

namespace UniversalNetwork

open Lib

/-- Ticks since the stream was due. -/
def Stream.phase (stream : Stream) : Nat := ⌊stream.updateAccumulator * 15⌋.toNat

/-- The interval is the one of the mode, and the stream is at one of the three ticks. -/
structure Stream.Paced (stream : Stream) : Prop where
  interval : stream.flow.updateInterval = if stream.flow.mode = .good then 1 / 15 else 1 / 5
  accumulator : stream.updateAccumulator = stream.phase / 15
  phase_lt : stream.phase < 3

section Stream

variable {stream stream' : Stream} {shouldUpdate : Bool}

theorem phase_of_accumulator {p : Nat} (h : stream.updateAccumulator = p / 15) :
    stream.phase = p := by
  have hp : stream.updateAccumulator * 15 = p := by
    rw [h]
    exact div_mul_cancel₀ _ (by norm_num)
  rw [Stream.phase, hp, Int.floor_natCast, Int.toNat_natCast]

theorem Stream.paced_of {p : Nat}
    (hinterval : stream.flow.updateInterval = if stream.flow.mode = .good then 1 / 15 else 1 / 5)
    (h : stream.updateAccumulator = p / 15) (hp : p < 3) : stream.Paced ∧ stream.phase = p := by
  have hphase := phase_of_accumulator h
  exact ⟨⟨hinterval, hphase ▸ h, hphase ▸ hp⟩, hphase⟩

theorem streamCreate_paced (address : NetAddr) : (streamCreate address).Paced := by
  refine (Stream.paced_of (p := 0) ?_ ?_ (by decide)).1
  · simp [streamCreate, streamFlowClear, kStreamFlowModeBadRate]
  · simp [streamCreate]

/-- An update of the flow sets mode and interval together. -/
theorem streamFlowUpdate_interval {flow : StreamFlow} {rtt deltaTime : ℚ}
    (h : flow.updateInterval = if flow.mode = .good then 1 / 15 else 1 / 5) :
    (streamFlowUpdate flow rtt deltaTime).updateInterval =
      if (streamFlowUpdate flow rtt deltaTime).mode = .good then 1 / 15 else 1 / 5 := by
  have hbad : ∀ ref : StreamFlow, ref.updateInterval = 1 / 5 → ref.mode = .bad →
      (streamFlowUpdateBad ref rtt deltaTime).updateInterval =
        if (streamFlowUpdateBad ref rtt deltaTime).mode = .good then 1 / 15 else 1 / 5 := by
    intro ref hinterval hmode
    unfold streamFlowUpdateBad
    generalize (if rtt ≤ kStreamFlowRttThreshold then ref.goodConditions + deltaTime else 0) = g
    by_cases hgood : g > ref.penalty
    · simp [hgood, kStreamFlowModeGoodRate]
    · simp [hgood, hinterval, hmode]
  cases hmode : flow.mode with
  | bad =>
    rw [hmode, if_neg (by simp)] at h
    rw [streamFlowUpdate_bad hmode]
    exact hbad flow h hmode
  | good =>
    rw [hmode, if_pos rfl] at h
    by_cases hrtt : rtt > kStreamFlowRttThreshold
    · have hmode' : (streamFlowUpdateGood flow rtt deltaTime).mode = .bad := by
        simp [streamFlowUpdateGood, hrtt]
      simp only [streamFlowUpdate, hmode, if_true]
      rw [if_pos hmode']
      refine hbad _ ?_ hmode'
      simp [streamFlowUpdateGood, hrtt, kStreamFlowModeBadRate]
    · obtain ⟨hstay, hgood, hinterval⟩ := streamFlowUpdate_stay hmode (not_lt.1 hrtt)
      rw [hstay, hgood, if_pos rfl]
      exact hinterval.trans h

theorem timerInterval_eq : kStreamTimerUpdateInterval = 1 / 15 := by
  norm_num [kStreamTimerUpdateInterval, kStreamFlowMaxRate, kStreamFlowModeGoodRate]

/-- The stream is due at this tick: in good mode always, in bad mode at the third. -/
theorem update_pace (h : stream.Paced) (hupdate : stream.update = some (shouldUpdate, stream')) :
    stream'.Paced ∧
      (stream'.flow.mode = .good → shouldUpdate = true) ∧
      (stream'.flow.mode = .bad →
        (shouldUpdate = true ↔ stream.phase = 2) ∧ stream'.phase = (stream.phase + 1) % 3) := by
  obtain ⟨reliability, -, hupdate⟩ := Option.bind_eq_some_iff.1 hupdate
  have hinterval := @streamFlowUpdate_interval _ reliability.rtt kStreamTimerUpdateInterval
    h.interval
  have hlt := h.phase_lt
  have hnonneg : (0 : ℚ) ≤ stream.phase := Nat.cast_nonneg _
  dsimp only at hupdate
  rw [timerInterval_eq, h.accumulator] at hupdate
  rw [timerInterval_eq] at hinterval
  generalize streamFlowUpdate stream.flow reliability.rtt (1 / 15) = flow at hupdate hinterval
  cases hmode : flow.mode with
  | good =>
    rw [hmode, if_pos rfl] at hinterval
    rw [if_pos (by rw [hinterval]; linarith)] at hupdate
    cases hupdate
    have hpaced := @Stream.paced_of { stream with
      reliability, flow, timeoutAccumulator := stream.timeoutAccumulator + 1 / 15,
      updateAccumulator := 0 } 0 (by simp [hmode, hinterval]) (by simp) (by decide)
    exact ⟨hpaced.1, fun _ => rfl, fun hbad => absurd (hmode.symm.trans hbad) nofun⟩
  | bad =>
    rw [hmode, if_neg nofun] at hinterval
    by_cases hphase : stream.phase = 2
    · rw [if_pos (by rw [hinterval, hphase]; norm_num)] at hupdate
      cases hupdate
      have hpaced := @Stream.paced_of { stream with
        reliability, flow, timeoutAccumulator := stream.timeoutAccumulator + 1 / 15,
        updateAccumulator := 0 } 0 (by simp [hmode, hinterval]) (by simp) (by decide)
      refine ⟨hpaced.1, fun _ => rfl, fun _ => ⟨by simp [hphase], ?_⟩⟩
      rw [hpaced.2, hphase]
    · have hle : (stream.phase : ℚ) ≤ 1 := by
        have : stream.phase ≤ 1 := by omega
        exact_mod_cast this
      rw [if_neg (by rw [hinterval]; linarith)] at hupdate
      cases hupdate
      have hpaced := @Stream.paced_of { stream with
        reliability, flow, timeoutAccumulator := stream.timeoutAccumulator + 1 / 15,
        updateAccumulator := (stream.phase : ℚ) / 15 + 1 / 15 } (stream.phase + 1)
        (by simp [hmode, hinterval]) (by push_cast; ring) (by omega)
      refine ⟨hpaced.1, fun hgood => absurd (hmode.symm.trans hgood) nofun,
        fun _ => ⟨by simp [hphase], ?_⟩⟩
      rw [hpaced.2]
      omega

theorem Stream.Paced.congr (h : stream.Paced) (hflow : stream'.flow = stream.flow)
    (haccumulator : stream'.updateAccumulator = stream.updateAccumulator) :
    stream'.Paced ∧ stream'.phase = stream.phase :=
  Stream.paced_of (hflow ▸ h.interval) (haccumulator.trans h.accumulator) h.phase_lt

end Stream

/-! ## Steps other than ticks -/

/-- Flow and accumulator of the streams there are stay, new streams are paced, and nothing is
sent. -/
structure SamePace (config config' : StreamConfiguration) : Prop where
  count_le : config.streamCount ≤ config'.streamCount
  flow : ∀ i < config.streamCount, (config'.memory i).flow = (config.memory i).flow
  accumulator : ∀ i < config.streamCount,
    (config'.memory i).updateAccumulator = (config.memory i).updateAccumulator
  created : ∀ i, config.streamCount ≤ i → i < config'.streamCount → (config'.memory i).Paced
  updates : config'.log.count .update = config.log.count .update

section Steps

variable {config config' config'' : StreamConfiguration} {i : Nat} {stream : Stream}

/-- The memory and the log are left alone. -/
theorem samePace_of_eq (hcount : config'.streamCount = config.streamCount)
    (hmemory : config'.memory = config.memory) (hlog : config'.log = config.log) :
    SamePace config config' := by
  refine ⟨hcount.ge, fun i _ => by rw [hmemory], fun i _ => by rw [hmemory], ?_, by rw [hlog]⟩
  intro i hle hlt
  omega

theorem SamePace.refl (config : StreamConfiguration) : SamePace config config :=
  samePace_of_eq rfl rfl rfl

theorem SamePace.trans (h : SamePace config config') (h' : SamePace config' config'') :
    SamePace config config'' := by
  have hcount := h.count_le
  refine ⟨hcount.trans h'.count_le, ?_, ?_, ?_, h'.updates.trans h.updates⟩
  · intro i hi
    exact (h'.flow i (by omega)).trans (h.flow i hi)
  · intro i hi
    exact (h'.accumulator i (by omega)).trans (h.accumulator i hi)
  · intro i hle hlt
    by_cases hi : i < config'.streamCount
    · exact ((h.created i hle hi).congr (h'.flow i hi) (h'.accumulator i hi)).1
    · exact h'.created i (by omega) hlt

theorem samePace_note (config : StreamConfiguration) (event : StreamEvent) (h : event ≠ .update) :
    SamePace config (config.note event) := by
  have hsame : SamePace config config := .refl config
  refine ⟨hsame.count_le, hsame.flow, hsame.accumulator, hsame.created, ?_⟩
  simp [StreamConfiguration.note, h]

theorem samePace_setStream (hflow : stream.flow = (config.memory i).flow)
    (haccumulator : stream.updateAccumulator = (config.memory i).updateAccumulator) :
    SamePace config (config.setStream i stream) := by
  refine ⟨Nat.le_refl _, ?_, ?_, ?_, rfl⟩
  · intro j _
    by_cases hj : j = i
    · subst hj
      simp [StreamConfiguration.setStream, hflow]
    · simp [StreamConfiguration.setStream, hj]
  · intro j _
    by_cases hj : j = i
    · subst hj
      simp [StreamConfiguration.setStream, haccumulator]
    · simp [StreamConfiguration.setStream, hj]
  · intro j hle hlt
    exact absurd hlt (Nat.not_lt.2 hle)

theorem Quiet.samePace (h : Quiet config config') : SamePace config config' := by
  induction h with
  | refl => exact .refl config
  | queues _ _ hcount hmemory _ _ _ hlog ih => exact ih.trans (samePace_of_eq hcount hmemory hlog)
  | note _ event hupdate _ ih => exact ih.trans (samePace_note _ event hupdate)
  | setStream _ i stream _ hflow haccumulator ih =>
    exact ih.trans (samePace_setStream hflow haccumulator)

theorem suspended_pace (config : StreamConfiguration) :
    SamePace config config.suspended := by
  unfold StreamConfiguration.suspended
  split
  · have hpaused : SamePace config { config with
      timerSuspendCount := config.timerSuspendCount + 1, active := false } :=
      samePace_of_eq rfl rfl rfl
    exact hpaused.trans (samePace_note _ .suspend nofun)
  · exact .refl _

theorem streamResume_pace (config : StreamConfiguration) :
    SamePace config (streamResume config) := by
  unfold streamResume
  split
  · exact samePace_of_eq rfl rfl rfl
  · exact .refl _

theorem addStream_pace (config : StreamConfiguration) (address : NetAddr) :
    SamePace config (addStream config address) := by
  have hold : ∀ i < config.streamCount, (addStream config address).memory i = config.memory i := by
    intro i hi
    simp [addStream, StreamConfiguration.setStream, Nat.ne_of_lt hi]
  refine ⟨Nat.le_succ _, fun i hi => by rw [hold i hi], fun i hi => by rw [hold i hi], ?_, rfl⟩
  intro i hle hlt
  have hi : i = config.streamCount := Nat.le_antisymm (Nat.lt_succ_iff.1 hlt) hle
  subst hi
  simpa [addStream, StreamConfiguration.setStream] using streamCreate_paced address

theorem streamAddBlock_pace (config : StreamConfiguration) (address : NetAddr) :
    SamePace config (streamAddBlock config address) := by
  unfold streamAddBlock
  split
  · exact .refl _
  · exact (addStream_pace config address).trans (streamResume_pace _)

theorem removed_pace (config : StreamConfiguration) (address : NetAddr) :
    SamePace config (config.removed address) := by
  unfold StreamConfiguration.removed
  split
  · exact .refl _
  · rename_i i _
    have herase : SamePace config { config with streams := config.streams.erase i } :=
      samePace_of_eq rfl rfl rfl
    dsimp only
    split
    · exact herase.trans (suspended_pace _)
    · exact herase

theorem streamStep_pace {action : StreamAction} (hstep : streamStep config action = some config')
    (htick : action.isTick = false) : SamePace config config' := by
  cases streamStep_move hstep with
  | quiet hquiet _ => exact hquiet.samePace
  | suspended => exact suspended_pace config
  | resumed => exact streamResume_pace config
  | added rest address =>
    exact (quiet_popped config rest).samePace.trans (streamAddBlock_pace _ _)
  | removed rest address =>
    exact (quiet_popped config rest).samePace.trans (removed_pace _ _)
  | ticked _ => cases htick

/-! ## Ticks -/

theorem streamUpdate_eq {shouldUpdate : Bool}
    (h : streamUpdate config i = some (shouldUpdate, config')) :
    ∃ stream, (config.memory i).update = some (shouldUpdate, stream) ∧
      config'.memory = Function.update config.memory i stream ∧ config'.log = config.log := by
  obtain ⟨⟨shouldUpdate', stream⟩, hupdate, h⟩ := Option.bind_eq_some_iff.1 h
  dsimp only at h
  split at h <;> cases h <;> exact ⟨stream, hupdate, rfl, rfl⟩

/-- Every stream of the list is updated once, and all others are left alone. -/
theorem updateStreams_eq {streams : List Nat} : ∀ {config : StreamConfiguration}
    {syncUpdate : Bool}, streams.Nodup →
    updateStreams streams config = some (syncUpdate, config') →
      config'.log = config.log ∧
      (∀ i, i ∉ streams → config'.memory i = config.memory i) ∧
      ∃ due : Nat → Bool, (syncUpdate = true ↔ ∀ i ∈ streams, due i = true) ∧
        ∀ i ∈ streams, (config.memory i).update = some (due i, config'.memory i) := by
  induction streams with
  | nil =>
    intro config syncUpdate _ h
    cases h
    exact ⟨rfl, fun _ _ => rfl, fun _ => true, by simp, nofun⟩
  | cons i streams ih =>
    intro config syncUpdate hnodup h
    obtain ⟨hi, hnodup⟩ := List.nodup_cons.1 hnodup
    obtain ⟨⟨shouldUpdate, config₁⟩, hupdate, h⟩ := Option.bind_eq_some_iff.1 h
    obtain ⟨⟨syncUpdate', config₂⟩, hrest, h⟩ := Option.bind_eq_some_iff.1 h
    cases h
    obtain ⟨stream, hstream, hmemory, hlog⟩ := streamUpdate_eq hupdate
    obtain ⟨hlog', hother, due, hdue, hupdates⟩ := ih hnodup hrest
    have hkeep : ∀ j, j ≠ i → config₁.memory j = config.memory j := by
      intro j hj
      rw [hmemory, Function.update_of_ne hj]
    refine ⟨hlog'.trans hlog, ?_, Function.update due i shouldUpdate, ?_, ?_⟩
    · intro j hj
      rw [List.mem_cons, not_or] at hj
      rw [hother j hj.2, hkeep j hj.1]
    · have hsame : (∀ j ∈ streams, Function.update due i shouldUpdate j = true) ↔
          ∀ j ∈ streams, due j = true := by
        refine forall₂_congr fun j hj => ?_
        rw [Function.update_of_ne fun heq : j = i => hi (heq ▸ hj)]
      rw [List.forall_mem_cons, hsame, Function.update_self, Bool.and_eq_true, hdue]
    · intro j hj
      rcases List.mem_cons.1 hj with rfl | hj
      · rw [Function.update_self, hother j hi, hmemory, Function.update_self]
        exact hstream
      · have hne : j ≠ i := fun heq => hi (heq ▸ hj)
        rw [Function.update_of_ne hne, ← hkeep j hne]
        exact hupdates j hj

theorem StreamTable.nodup (h : StreamTable config) : config.streams.Nodup := by
  refine h.different.imp fun {i j} hij heq => ?_
  subst heq
  simp [netAddrIsEqual] at hij

/-- All streams through one tick: those of the list are updated, and the tick sends if all of them
are due. -/
theorem streamTimerCallback_pace (htable : StreamTable config) {object : StreamObject}
    (h : streamTimerCallback config object = some config') :
    config'.streamCount = config.streamCount ∧
    (∀ i < config.streamCount, i ∉ config.streams →
      (config'.memory i).flow = (config.memory i).flow ∧
      (config'.memory i).updateAccumulator = (config.memory i).updateAccumulator) ∧
    ∃ due : Nat → Bool,
      (∀ i ∈ config.streams, ∃ stream, (config.memory i).update = some (due i, stream) ∧
        (config'.memory i).flow = stream.flow ∧
        (config'.memory i).updateAccumulator = stream.updateAccumulator) ∧
      config'.log.count .update = config.log.count .update +
        if config.streams ≠ [] ∧ ∀ i ∈ config.streams, due i = true then 1 else 0 := by
  have hsame := streamTimerCallback_same h
  refine ⟨hsame.streamCount, ?_⟩
  cases streamTimerCallback_tick h with
  | idle hnil =>
    refine ⟨fun _ _ _ => ⟨rfl, rfl⟩, fun _ => true, ?_, ?_⟩
    · rw [hnil]
      simp
    · rw [if_neg fun hall => hall.1 hnil, Nat.add_zero]
  | updated hne hupdate =>
    obtain ⟨hlog, hother, due, hdue, hupdates⟩ := updateStreams_eq htable.nodup hupdate
    refine ⟨fun i hi hmem => ?_, due, fun i hi => ⟨_, hupdates i hi, rfl, rfl⟩, ?_⟩
    · rw [hother i hmem]
      exact ⟨rfl, rfl⟩
    · rw [hlog, if_neg fun hall => Bool.false_ne_true (hdue.2 hall.2), Nat.add_zero]
  | @sent config₁ _ hne hupdate hsend =>
    obtain ⟨hlog, hother, due, hdue, hupdates⟩ := updateStreams_eq htable.nodup hupdate
    have hcount := (updateStreams_same hupdate).streamCount
    have hsends := (sendStreams_quiet .refl hsend).samePace
    refine ⟨fun i hi hmem => ?_, due, fun i hi => ⟨config₁.memory i, hupdates i hi, ?_, ?_⟩, ?_⟩
    · rw [← hother i hmem]
      exact ⟨hsends.flow i (hcount ▸ hi), hsends.accumulator i (hcount ▸ hi)⟩
    · exact hsends.flow i (hcount ▸ htable.created i hi)
    · exact hsends.accumulator i (hcount ▸ htable.created i hi)
    · rw [hsends.updates, if_pos ⟨hne, hdue.1 rfl⟩, ← hlog]
      simp [StreamConfiguration.note]

end Steps

/-! ## Runs -/

def AllPaced (config : StreamConfiguration) : Prop :=
  ∀ i < config.streamCount, (config.memory i).Paced

/-- List and modes are the same. -/
structure SameModes (config config' : StreamConfiguration) : Prop where
  streams : config'.streams = config.streams
  mode : ∀ i ∈ config.streams, (config'.memory i).flow.mode = (config.memory i).flow.mode

instance (config config' : StreamConfiguration) : Decidable (SameModes config config') :=
  decidable_of_iff (config'.streams = config.streams ∧
    ∀ i ∈ config.streams, (config'.memory i).flow.mode = (config.memory i).flow.mode)
    ⟨fun h => ⟨h.1, h.2⟩, fun h => ⟨h.streams, h.mode⟩⟩

/-- The step changes neither the list nor a mode. -/
def KeepsModes (config : StreamConfiguration) (action : StreamAction) : Prop :=
  ∀ config', streamStep config action = some config' → SameModes config config'

instance (config : StreamConfiguration) (action : StreamAction) :
    Decidable (KeepsModes config action) :=
  match h : streamStep config action with
  | none => .isTrue fun config' hstep => by
      rw [h] at hstep
      cases hstep
  | some config' => decidable_of_iff (SameModes config config')
      ⟨fun hsame _ hstep => Option.some.inj (h.symm.trans hstep) ▸ hsame, fun hkeeps => hkeeps _ h⟩

/-- The streams in bad mode are due at the same ticks. -/
def InPhase (config : StreamConfiguration) : Prop :=
  ∀ i ∈ config.streams, ∀ j ∈ config.streams,
    (config.memory i).flow.mode = .bad → (config.memory j).flow.mode = .bad →
    (config.memory i).updateAccumulator = (config.memory j).updateAccumulator

section Runs

variable {config config' : StreamConfiguration} {packets : Nat → Vector UInt8 kNetPacketMaxLen}
  {suspendCallback : Bool} {actions next : List StreamAction}

theorem AllPaced.step (h : AllPaced config) (htable : StreamTable config) {action : StreamAction}
    (hstep : streamStep config action = some config') : AllPaced config' := by
  intro i hi
  cases htick : action.isTick with
  | false =>
    have hsame := streamStep_pace hstep htick
    by_cases hold : i < config.streamCount
    · exact ((h i hold).congr (hsame.flow i hold) (hsame.accumulator i hold)).1
    · exact hsame.created i (Nat.not_lt.1 hold) hi
  | true =>
    cases action with
    | tick object =>
      obtain ⟨hcount, hother, due, hupdates, -⟩ := streamTimerCallback_pace htable hstep
      rw [hcount] at hi
      by_cases hmem : i ∈ config.streams
      · obtain ⟨stream, hupdate, hflow, haccumulator⟩ := hupdates i hmem
        exact ((update_pace (h i hi) hupdate).1.congr hflow haccumulator).1
      · exact ((h i hi).congr (hother i hi hmem).1 (hother i hi hmem).2).1
    | _ => cases htick

theorem run_paced (h : run streamStep (streamSetup packets suspendCallback) actions = some config) :
    StreamTable config ∧ AllPaced config :=
  run_inv (P := fun config => StreamTable config ∧ AllPaced config)
    ⟨streamSetup_table packets suspendCallback, nofun⟩
    (fun _ _ _ h hstep => ⟨(streamStep_table h.1 hstep).1, h.2.step h.1 hstep⟩) h

/-- After `j` more ticks, the next one finds all streams due. -/
def DueAfter (config : StreamConfiguration) (j : Nat) : Prop :=
  ∀ i ∈ config.streams, (config.memory i).flow.mode = .bad → ((config.memory i).phase + j) % 3 = 2

instance (config : StreamConfiguration) (j : Nat) : Decidable (DueAfter config j) :=
  inferInstanceAs (Decidable (∀ i ∈ config.streams, _ → _))

/-- What `next` did to the streams in bad mode, and how often it sent. -/
structure Progress (config : StreamConfiguration) (next : List StreamAction)
    (config' : StreamConfiguration) : Prop where
  table : StreamTable config'
  paced : AllPaced config'
  modes : SameModes config config'
  phase : ∀ i ∈ config.streams, (config.memory i).flow.mode = .bad →
    (config'.memory i).phase = ((config.memory i).phase + next.countP (·.isTick)) % 3
  updates : config'.log.count .update = config.log.count .update +
    (List.range (next.countP (·.isTick))).countP (DueAfter config ·)

theorem SameModes.trans {config'' : StreamConfiguration} (h : SameModes config config')
    (h' : SameModes config' config'') : SameModes config config'' where
  streams := h'.streams.trans h.streams
  mode := fun i hi => (h'.mode i (h.streams ▸ hi)).trans (h.mode i hi)

theorem Progress.step (h : Progress config next config') (hne : config.streams ≠ [])
    {action : StreamAction} {config'' : StreamConfiguration}
    (hstep : streamStep config' action = some config'') (hkeeps : KeepsModes config' action) :
    Progress config (next ++ [action]) config'' := by
  have hmodes := hkeeps config'' hstep
  have hmem : ∀ i ∈ config.streams, i ∈ config'.streams := fun i hi => h.modes.streams ▸ hi
  have hcreated : ∀ i ∈ config.streams, i < config'.streamCount :=
    fun i hi => h.table.created i (hmem i hi)
  have hmode : ∀ i ∈ config.streams,
      (config''.memory i).flow.mode = (config.memory i).flow.mode :=
    (h.modes.trans hmodes).mode
  refine ⟨(streamStep_table h.table hstep).1, h.paced.step h.table hstep, h.modes.trans hmodes,
    ?_, ?_⟩
  all_goals rw [List.countP_append, List.countP_singleton]
  · intro i hi hbad
    have hphase := h.phase i hi hbad
    cases htick : action.isTick with
    | false =>
      have hsame := streamStep_pace hstep htick
      have hlt := hcreated i hi
      rw [((h.paced i hlt).congr (hsame.flow i hlt) (hsame.accumulator i hlt)).2, hphase]
      rfl
    | true =>
      cases action with
      | tick object =>
        obtain ⟨-, -, due, hupdates, -⟩ := streamTimerCallback_pace h.table hstep
        obtain ⟨stream, hupdate, hflow, haccumulator⟩ := hupdates i (hmem i hi)
        obtain ⟨hpaced, -, hbadPhase⟩ := update_pace (h.paced i (hcreated i hi)) hupdate
        have hstreamMode : stream.flow.mode = .bad := by
          rw [← hflow, hmode i hi, hbad]
        rw [(hpaced.congr hflow haccumulator).2, (hbadPhase hstreamMode).2, hphase, if_pos rfl]
        omega
      | _ => cases htick
  · cases htick : action.isTick with
    | false =>
      rw [(streamStep_pace hstep htick).updates, h.updates]
      rfl
    | true =>
      cases action with
      | tick object =>
        obtain ⟨-, -, due, hupdates, hcount⟩ := streamTimerCallback_pace h.table hstep
        have hall : (∀ i ∈ config'.streams, due i = true) ↔
            DueAfter config (next.countP (·.isTick)) := by
          rw [h.modes.streams]
          refine forall₂_congr fun i hi => ?_
          obtain ⟨stream, hupdate, hflow, -⟩ := hupdates i (hmem i hi)
          obtain ⟨-, hgood, hbadPhase⟩ := update_pace (h.paced i (hcreated i hi)) hupdate
          have hstreamMode : stream.flow.mode = (config.memory i).flow.mode := by
            rw [← hflow, hmode i hi]
          cases hcase : (config.memory i).flow.mode with
          | good => simp [hgood (hstreamMode.trans hcase)]
          | bad => simp [(hbadPhase (hstreamMode.trans hcase)).1, h.phase i hi hcase]
        have hsends : (config'.streams ≠ [] ∧ ∀ i ∈ config'.streams, due i = true) ↔
            DueAfter config (next.countP (·.isTick)) := by
          rw [hall, h.modes.streams]
          exact and_iff_right hne
        rw [hcount, h.updates, if_pos rfl, List.range_succ, List.countP_append,
          List.countP_singleton, Nat.add_assoc]
        simp only [hsends, decide_eq_true_eq]
      | _ => cases htick

/-- A steady run sends at the ticks that find all streams due. -/
theorem run_progress (htable : StreamTable config) (hpaced : AllPaced config)
    (hne : config.streams ≠ []) (hrun : run streamStep config next = some config')
    (hsteady : Along streamStep KeepsModes config next) : Progress config next config' := by
  refine (run_history (P := fun next config' => run streamStep config next = some config' ∧
    (Along streamStep KeepsModes config next → Progress config next config')) ?_ ?_ hrun).2 hsteady
  · refine ⟨rfl, fun _ => ⟨htable, hpaced, ⟨rfl, fun _ _ => rfl⟩, fun i hi _ => ?_, rfl⟩⟩
    exact (Nat.mod_eq_of_lt (hpaced i (htable.created i hi)).phase_lt).symm
  · rintro next config' action config'' ⟨hrun, ih⟩ hstep
    refine ⟨run_snoc_eq_some.2 ⟨config', hrun, hstep⟩, fun halong => ?_⟩
    obtain ⟨halong, hkeeps⟩ := (along_snoc hrun).1 halong
    exact (ih halong).step hne hstep hkeeps

theorem dueAfter_iff_inPhase (htable : StreamTable config) (hpaced : AllPaced config) :
    (∃ j < 3, DueAfter config j) ↔ InPhase config := by
  have hstream : ∀ i ∈ config.streams, (config.memory i).Paced :=
    fun i hi => hpaced i (htable.created i hi)
  constructor
  · rintro ⟨j, hj, hdue⟩ i hi k hk hbadi hbadk
    have hphase : (config.memory i).phase = (config.memory k).phase := by
      have h₁ := hdue i hi hbadi
      have h₂ := hdue k hk hbadk
      have h₃ := (hstream i hi).phase_lt
      have h₄ := (hstream k hk).phase_lt
      omega
    rw [(hstream i hi).accumulator, (hstream k hk).accumulator, hphase]
  · intro hin
    by_cases hbad : ∃ i ∈ config.streams, (config.memory i).flow.mode = .bad
    · obtain ⟨i, hi, hbadi⟩ := hbad
      have hlt := (hstream i hi).phase_lt
      refine ⟨2 - (config.memory i).phase, by omega, fun k hk hbadk => ?_⟩
      have hsame := hin k hk i hi hbadk hbadi
      rw [phase_of_accumulator (hsame.trans (hstream i hi).accumulator)]
      omega
    · exact ⟨0, by decide, fun i hi hbadi => absurd ⟨i, hi, hbadi⟩ hbad⟩

/-- **Streams starve each other exactly out of phase**: three ticks, in any run that changes neither
the list nor a mode, send if and only if the streams in bad mode are in phase. -/
theorem sends_iff_inPhase
    (h : run streamStep (streamSetup packets suspendCallback) actions = some config)
    (hne : config.streams ≠ []) (hrun : run streamStep config next = some config')
    (hticks : next.countP (·.isTick) = 3)
    (hsteady : Along streamStep KeepsModes config next) :
    config.log.count .update < config'.log.count .update ↔ InPhase config := by
  obtain ⟨htable, hpaced⟩ := run_paced h
  have hprogress := run_progress htable hpaced hne hrun hsteady
  rw [hprogress.updates, hticks, ← dueAfter_iff_inPhase htable hpaced, Nat.lt_add_right_iff_pos,
    List.countP_pos_iff]
  simp

end Runs

/-- The application has nothing to send. -/
def noUpdate : StreamObject := ⟨Vector.replicate _ 0, 0, 0⟩

/-- Two streams, added between the same ticks. -/
def addedTogether : List StreamAction :=
  [.add .zeroed, .block noUpdate, .add ⟨afInet, 1, 1⟩, .block noUpdate, .tick noUpdate]

theorem sends_iff_inPhase_together : ∃ config config',
    run streamStep (streamSetup (fun _ => Vector.replicate _ 0) true) addedTogether = some config ∧
    config.streams = [0, 1] ∧
    run streamStep config [.tick noUpdate, .tick noUpdate, .tick noUpdate] =
      some config' ∧ config.log.count .update < config'.log.count .update := by
  have hrun : ((run streamStep (streamSetup (fun _ => Vector.replicate _ 0) true)
      addedTogether).bind fun config =>
        (run streamStep config [.tick noUpdate, .tick noUpdate, .tick noUpdate]).map
          fun _ => (config.streams, decide ((config.memory 0).updateAccumulator =
            (config.memory 1).updateAccumulator), decide (Along streamStep KeepsModes config
            [.tick noUpdate, .tick noUpdate, .tick noUpdate]))) = some ([0, 1], true, true) := by
    decide +kernel
  obtain ⟨config, h, hrun⟩ := Option.bind_eq_some_iff.1 hrun
  obtain ⟨config', h', heq⟩ := Option.map_eq_some_iff.1 hrun
  simp only [Prod.mk.injEq, decide_eq_true_eq] at heq
  obtain ⟨hstreams, hsame, hsteady⟩ := heq
  have hin : InPhase config := by
    intro i hi j hj _ _
    rw [hstreams] at hi hj
    rcases List.mem_pair.1 hi with rfl | rfl <;> rcases List.mem_pair.1 hj with rfl | rfl
    · rfl
    · exact hsame
    · exact hsame.symm
    · rfl
  exact ⟨config, config', h, hstreams, h', (sends_iff_inPhase h (by rw [hstreams]; nofun) h' rfl
    hsteady).2 hin⟩

/-- Two streams, the second added one tick after the first. -/
def addedApart : List StreamAction :=
  [.add .zeroed, .block noUpdate, .tick noUpdate, .add ⟨afInet, 1, 1⟩, .block noUpdate]

/-- Neither of them is ever due when the other is. -/
theorem addedApart_starve : ∃ config config',
    run streamStep (streamSetup (fun _ => Vector.replicate _ 0) true) addedApart = some config ∧
    config.streams ≠ [] ∧
    run streamStep config [.tick noUpdate, .tick noUpdate, .tick noUpdate] =
      some config' ∧
    Along streamStep KeepsModes config [.tick noUpdate, .tick noUpdate, .tick noUpdate] ∧
    ¬config.log.count .update < config'.log.count .update := by
  have hrun : ((run streamStep (streamSetup (fun _ => Vector.replicate _ 0) true) addedApart).bind
      fun config =>
        (run streamStep config [.tick noUpdate, .tick noUpdate, .tick noUpdate]).map
          fun config' => (config.streams, decide (Along streamStep KeepsModes config
            [.tick noUpdate, .tick noUpdate, .tick noUpdate]),
            decide (config.log.count .update < config'.log.count .update))) =
        some ([0, 1], true, false) := by
    decide +kernel
  obtain ⟨config, h, hrun⟩ := Option.bind_eq_some_iff.1 hrun
  obtain ⟨config', h', heq⟩ := Option.map_eq_some_iff.1 hrun
  simp only [Prod.mk.injEq, decide_eq_true_eq, decide_eq_false_iff_not] at heq
  exact ⟨config, config', h, by rw [heq.1]; nofun, h', heq.2.1, heq.2.2⟩

end UniversalNetwork
