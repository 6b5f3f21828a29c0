import UniversalNetwork.StreamConfiguration.Streams

/-!
# How often a stream times out

A tick that finds the time of a stream over queues up a timeout, and so does every tick after it:
neither `streamTimeout` nor its block resets the accumulator, and `streamUpdate` does not look at
the state. And a timeout that is still queued up when a packet is accepted is called after it, for a
silence that is over.

`Watched` counts the calls of `timeoutCallback` for each stream since it last accepted a packet.
`timeouts_once`: it is called once at most, in every run in which no tick finds a stream whose time
is already over and no packet is accepted for a stream with a timeout queued up.
-/

namespace UniversalNetwork

open Lib

/-- The streams with the calls of `timeoutCallback` for each of them since it accepted a packet. -/
structure Watched where
  config : StreamConfiguration
  calls : Nat → Nat

def watch (packets : Nat → Vector UInt8 kNetPacketMaxLen) (suspendCallback : Bool) :
    Watched :=
  ⟨streamSetup packets suspendCallback, fun _ => 0⟩

def watchStep (w : Watched) (action : StreamAction) : Option Watched :=
  (streamStep w.config action).map fun config =>
    { config
      calls := fun i =>
        if w.config.accepts action = some i then 0
        else w.calls i + if w.config.timesOut action = some i then 1 else 0 }

/-- A tick finds no stream whose time is already over, and a packet is accepted for no stream with a
timeout queued up. -/
def Timely (w : Watched) (action : StreamAction) : Prop :=
  (action.isTick = true →
    ∀ i ∈ w.config.streams, (w.config.memory i).timeoutAccumulator ≤ kStreamTimeout) ∧
  ∀ i ∈ w.config.accepts action, w.config.pending i = 0

instance (w : Watched) (action : StreamAction) : Decidable (Timely w action) :=
  inferInstanceAs (Decidable ((action.isTick = true → ∀ i ∈ w.config.streams, _) ∧
    ∀ i ∈ w.config.accepts action, _))

/-! ## The invariant -/

/-- A stream of the list has been timed out or is about to be, at most once, and its time is over if
so. -/
structure TimedOutOnce (w : Watched) : Prop where
  table : StreamTable w.config
  fresh : ∀ i, w.config.streamCount ≤ i → w.calls i = 0 ∧ w.config.pending i = 0
  once : ∀ i ∈ w.config.streams, w.calls i + w.config.pending i ≤ 1
  timeOver : ∀ i ∈ w.config.streams, 1 ≤ w.calls i + w.config.pending i →
    (w.config.memory i).timeoutAccumulator > kStreamTimeout

theorem timedOutOnce_watch (packets : Nat → Vector UInt8 kNetPacketMaxLen)
    (suspendCallback : Bool) : TimedOutOnce (watch packets suspendCallback) where
  table := streamSetup_table packets suspendCallback
  fresh := fun _ _ => ⟨rfl, rfl⟩
  once := nofun
  timeOver := nofun

theorem TimedOutOnce.step {w w' : Watched} {action : StreamAction} (h : TimedOutOnce w)
    (htimely : Timely w action) (hstep : watchStep w action = some w') : TimedOutOnce w' := by
  obtain ⟨config', hstream, rfl⟩ := Option.map_eq_some_iff.1 hstep
  have htable := (streamStep_table h.table hstream).1
  have hcreated := h.table.created
  cases streamStep_streams h.table hstream with
  | kept haccepts htimes htick hmemory hcount hlist hpending =>
    simp only [haccepts, htimes, reduceCtorEq, if_false, Nat.add_zero]
    refine ⟨htable, fun i hi => ?_, fun i hi => ?_, fun i hi => ?_⟩ <;> dsimp only at hi ⊢ <;>
      rw [hpending]
    · exact h.fresh i (hcount ▸ hi)
    · exact h.once i (hlist hi)
    · rw [hmemory]
      exact h.timeOver i (hlist hi)
  | created haccepts htimes htick address hmemory hcount hlist hpending =>
    simp only [haccepts, htimes, reduceCtorEq, if_false, Nat.add_zero]
    have hcases : ∀ i ∈ config'.streams, i ∈ w.config.streams ∨ i = w.config.streamCount := by
      intro i hi
      simpa [hlist] using hi
    refine ⟨htable, fun i hi => ?_, fun i hi => ?_, fun i hi => ?_⟩ <;> dsimp only at hi ⊢ <;>
      rw [hpending]
    · exact h.fresh i (by omega)
    · rcases hcases i hi with hold | rfl
      · exact h.once i hold
      · have hnew := h.fresh _ (Nat.le_refl _)
        omega
    · rcases hcases i hi with hold | rfl
      · rw [hmemory, Function.update_of_ne (Nat.ne_of_lt (hcreated i hold))]
        exact h.timeOver i hold
      · intro hcalls
        have hnew := h.fresh _ (Nat.le_refl _)
        omega
  | ticked haccepts htimes htick hother hticked hcount hlist hpending =>
    simp only [haccepts, htimes, reduceCtorEq, if_false, Nat.add_zero]
    -- the time of no stream was over, so none has been timed out or is about to be
    have hnone : ∀ i ∈ w.config.streams, w.calls i + w.config.pending i = 0 := by
      intro i hi
      by_contra hcalls
      exact absurd (h.timeOver i hi (by omega)) (not_lt.2 (htimely.1 htick i hi))
    refine ⟨htable, fun i hi => ?_, fun i hi => ?_, fun i hi => ?_⟩ <;> dsimp only at hi ⊢ <;>
      rw [hpending]
    · have hmem : i ∉ w.config.streams := fun hmem => by
        have := hcreated i hmem
        omega
      rw [if_neg fun hover => hmem hover.1]
      exact h.fresh i (hcount ▸ hi)
    · have := hnone i (hlist ▸ hi)
      split <;> omega
    · intro hcalls
      have := hnone i (hlist ▸ hi)
      by_contra hover
      rw [if_neg fun hboth => hover hboth.2] at hcalls
      omega
  | timedOut i haccepts htimes htick hmemory hcount hlist hpending =>
    simp only [haccepts, htimes, reduceCtorEq, if_false, Option.some.injEq]
    have hsum : ∀ j, w.calls j + (if i = j then 1 else 0) + config'.pending j =
        w.calls j + w.config.pending j := by
      intro j
      rw [hpending j]
      by_cases hj : i = j
      · simp [hj]
        omega
      · simp [hj, Ne.symm hj]
    have haccumulator : ∀ j, (config'.memory j).timeoutAccumulator =
        (w.config.memory j).timeoutAccumulator := by
      intro j
      rw [hmemory]
      by_cases hj : j = i
      · subst hj
        simp
      · simp [hj]
    refine ⟨htable, fun j hj => ?_, fun j hj => ?_, fun j hj => ?_⟩ <;> dsimp only at hj ⊢
    · have hnew := h.fresh j (hcount ▸ hj)
      have := hsum j
      omega
    · rw [hsum]
      exact h.once j (hlist ▸ hj)
    · rw [hsum, haccumulator]
      exact h.timeOver j (hlist ▸ hj)
  | accepted i sequence ack ackBits reliability haccepts htimes htick hack hreceived hmemory hcount
      hlist hpending =>
    simp only [haccepts, htimes, reduceCtorEq, if_false, Option.some.injEq, Nat.add_zero]
    have hclear : w.config.pending i = 0 := htimely.2 i haccepts
    refine ⟨htable, fun j hj => ?_, fun j hj => ?_, fun j hj => ?_⟩ <;> dsimp only at hj ⊢ <;>
      rw [hpending]
    · have hnew := h.fresh j (hcount ▸ hj)
      split <;> omega
    · have hold := h.once j (hlist ▸ hj)
      split <;> omega
    · intro hcalls
      by_cases hij : i = j
      · subst hij
        rw [if_pos rfl] at hcalls
        omega
      · rw [if_neg hij] at hcalls
        rw [hmemory, Function.update_of_ne (Ne.symm hij)]
        exact h.timeOver j (hlist ▸ hj) hcalls

/-- **One timeout for each silence**: in every run whose steps are timely, `timeoutCallback` is called
at most once for a stream of the list since it accepted a packet. -/
theorem timeouts_once {packets : Nat → Vector UInt8 kNetPacketMaxLen} {suspendCallback : Bool}
    {actions : List StreamAction} {w : Watched}
    (hrun : run watchStep (watch packets suspendCallback) actions = some w)
    (htimely : Along watchStep Timely (watch packets suspendCallback) actions) :
    ∀ i ∈ w.config.streams, w.calls i ≤ 1 := by
  have h : TimedOutOnce w := run_along (timedOutOnce_watch packets suspendCallback)
    (fun _ _ _ h ht hstep => h.step ht hstep) hrun htimely
  intro i hi
  have := h.once i hi
  omega

/-- Two streams on which nothing is received during `ticks` ticks of the timer. -/
def silence (ticks : Nat) : List StreamAction :=
  addedApart ++ List.replicate ticks (.tick noUpdate)

theorem timeouts_once_silence : ∃ w,
    run watchStep (watch (fun _ => Vector.replicate _ 0) true) (silence 75 ++ [.block noUpdate]) =
      some w ∧ w.config.streams = [0, 1] ∧ w.calls 0 = 1 ∧ ∀ i ∈ w.config.streams, w.calls i ≤ 1 := by
  have hrun : (run watchStep (watch (fun _ => Vector.replicate _ 0) true)
      (silence 75 ++ [.block noUpdate])).map (fun w => (w.config.streams, w.calls 0)) =
        some ([0, 1], 1) := by
    decide +kernel
  have htimely : Along watchStep Timely (watch (fun _ => Vector.replicate _ 0) true)
      (silence 75 ++ [.block noUpdate]) := by
    decide +kernel
  obtain ⟨w, hw, hvalues⟩ := Option.map_eq_some_iff.1 hrun
  obtain ⟨hstreams, hcalls⟩ := Prod.mk.injEq .. ▸ hvalues
  exact ⟨w, hw, hstreams, hcalls, timeouts_once hw htimely⟩

/-- The tick after the one that timed a stream out times it out again. -/
theorem timeouts_twice : ∃ w,
    run watchStep (watch (fun _ => Vector.replicate _ 0) true)
      (silence 76 ++ [.block noUpdate, .block noUpdate]) = some w ∧
    0 ∈ w.config.streams ∧ w.calls 0 = 2 ∧ ¬ ∀ i ∈ w.config.streams, w.calls i ≤ 1 := by
  have hrun : (run watchStep (watch (fun _ => Vector.replicate _ 0) true)
      (silence 76 ++ [.block noUpdate, .block noUpdate])).map
        (fun w => (w.config.streams, w.calls 0)) = some ([0, 1], 2) := by
    decide +kernel
  obtain ⟨w, hw, hvalues⟩ := Option.map_eq_some_iff.1 hrun
  obtain ⟨hstreams, hcalls⟩ := Prod.mk.injEq .. ▸ hvalues
  have hmem : 0 ∈ w.config.streams := by simp [hstreams]
  refine ⟨w, hw, hmem, hcalls, fun h => ?_⟩
  have := h 0 hmem
  omega

end UniversalNetwork
