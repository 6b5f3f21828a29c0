import UniversalNetwork.Timeout
import Mathlib.Tactic.Common

/-!
# A timeout owns its source

`CountedSources`: every source was released once, except the one of a valid timeout. Every call keeps
this, and so does the rest of an event handler for a timeout that its callback left valid, because
the handler takes the reference of the source that the timeout has then.

* `timeout_owned_iff`: in every run the sources are released exactly once, and the timeout is valid
  just when its source is live, as long as no callback ends with its timeout destroyed.
* `timeoutFire_rearmed`: a source that the callback creates is released before it fires.
-/

namespace UniversalNetwork

open Lib

/-- The sources that are no longer live were released once, nothing else was, and a live one is that
of the timeout, which is valid just then. -/
structure OwnsSource (s : TimeoutState) : Prop where
  once : ∀ k < s.sources.length, ¬ s.Live k → s.released.count (some k) = 1
  sources : ∀ source ∈ s.released, ∃ k < s.sources.length, source = some k
  current : ∀ k, s.Live k → s.timeout.timerDispatchSource = some k
  valid : s.timeout.valid = true ↔ ∃ k ∈ s.timeout.timerDispatchSource, s.Live k

def TimeoutCall.arms : TimeoutCall → Bool
  | .create _ _ _ created => created
  | .createBlock _ _ created => created
  | .createQueue _ _ _ created => created
  | .destroy => false

/-- The last call of a callback, if there is one, creates a source. -/
def KeepsValid (s : TimeoutState) : TimeoutAction → Prop
  | .call _ => True
  | .fire k callback => s.Live k → ∀ call ∈ callback.getLast?, call.arms = true

/-! ## The invariant -/

structure CountedSources (s : TimeoutState) : Prop where
  once : ∀ k, s.released.count (some k) =
    if k < s.sources.length ∧ ¬ (s.timeout.valid = true ∧ s.timeout.timerDispatchSource = some k)
    then 1 else 0
  null : none ∉ s.released
  current : s.timeout.valid = true → ∃ k < s.sources.length, s.timeout.timerDispatchSource = some k

/-- The source of a valid timeout neither fired nor was cancelled. -/
def Armed (s : TimeoutState) : Prop :=
  s.timeout.valid = true → ∀ k ∈ s.timeout.timerDispatchSource,
    ∃ source ∈ s.sources[k]?, source.fired = false ∧ source.cancelled = false

theorem countedSources_init : CountedSources timeoutInit where
  once := by simp [timeoutInit]
  null := by simp [timeoutInit]
  current := by simp [timeoutInit]

theorem TimeoutState.Live.lt {s : TimeoutState} {k : Nat} (h : s.Live k) : k < s.sources.length := by
  obtain ⟨⟨source, hsource, -⟩, -⟩ := h
  exact (List.getElem?_eq_some_iff.1 hsource).1

section CountedSources

variable {s : TimeoutState} (h : CountedSources s)
include h

theorem CountedSources.current_of_live {k : Nat} (hlive : s.Live k) :
    s.timeout.valid = true ∧ s.timeout.timerDispatchSource = some k := by
  have hcount := h.once k
  rw [List.count_eq_zero.2 hlive.2] at hcount
  by_contra hnot
  rw [if_pos ⟨hlive.lt, hnot⟩] at hcount
  cases hcount

theorem CountedSources.live (harmed : Armed s) {k : Nat} (hvalid : s.timeout.valid = true)
    (hcurrent : s.timeout.timerDispatchSource = some k) : s.Live k := by
  refine ⟨harmed hvalid k hcurrent, ?_⟩
  rw [← List.count_eq_zero, h.once, if_neg fun hnot => hnot.2 ⟨hvalid, hcurrent⟩]

theorem CountedSources.ownsSource (harmed : Armed s) : OwnsSource s where
  once := by
    intro k hk hdead
    rw [h.once, if_pos ⟨hk, fun hcurrent => hdead (h.live harmed hcurrent.1 hcurrent.2)⟩]
  sources := by
    rintro (- | k) hmem
    · exact absurd hmem h.null
    · refine ⟨k, ?_, rfl⟩
      have hpos := List.count_pos_iff.2 hmem
      rw [h.once] at hpos
      by_contra hk
      rw [if_neg fun hnot => hk hnot.1] at hpos
      omega
  current := fun k hlive => (h.current_of_live hlive).2
  valid := by
    constructor
    · intro hvalid
      obtain ⟨k, -, hcurrent⟩ := h.current hvalid
      exact ⟨k, hcurrent, h.live harmed hvalid hcurrent⟩
    · rintro ⟨k, -, hlive⟩
      exact (h.current_of_live hlive).1

/-- The reference of a valid timeout is released. -/
theorem CountedSources.invalidate {s' : TimeoutState} (hvalid : s.timeout.valid = true)
    (hlength : s'.sources.length = s.sources.length) (hinvalid : s'.timeout.valid = false)
    (hreleased : s'.released = s.released ++ [s.timeout.timerDispatchSource]) : CountedSources s' := by
  obtain ⟨j, hj, hcurrent⟩ := h.current hvalid
  refine ⟨fun k => ?_, ?_, by simp [hinvalid]⟩
  · rw [hreleased, List.count_append, h.once, hlength, hinvalid, hcurrent]
    by_cases hjk : j = k
    · subst hjk
      simp [hj, hvalid]
    · simp [hjk]
  · rw [hreleased, hcurrent]
    simpa using h.null

end CountedSources

/-! ## Calls -/

section Calls

variable {s : TimeoutState}

theorem timeoutDestroy_valid (s : TimeoutState) : (timeoutDestroy s).timeout.valid = false := by
  unfold timeoutDestroy
  split
  · simp [TimeoutState.release, TimeoutState.cancel, TimeoutState.setValid]
    split <;> rfl
  · simp_all

theorem CountedSources.timeoutDestroy (h : CountedSources s) : CountedSources (timeoutDestroy s) := by
  have hinvalid := timeoutDestroy_valid s
  unfold UniversalNetwork.timeoutDestroy at hinvalid ⊢
  split
  · rename_i hvalid
    rw [if_pos hvalid] at hinvalid
    refine h.invalidate hvalid ?_ hinvalid ?_
    all_goals simp only [TimeoutState.release, TimeoutState.cancel, TimeoutState.setValid]
    all_goals split <;> simp
  · exact h

theorem timeoutArm_eq (s : TimeoutState) (source : Option DispatchSource) :
    timeoutArm s source = match source with
      | none => { timeoutDestroy s with
          timeout := { (timeoutDestroy s).timeout with timerDispatchSource := none } }
      | some source => { timeoutDestroy s with
          timeout := ⟨some (timeoutDestroy s).sources.length, true⟩
          sources := (timeoutDestroy s).sources ++ [source] } := by
  have hdestroy : (if s.timeout.valid then timeoutDestroy s else s) = timeoutDestroy s := by
    split
    · rfl
    · rename_i hinvalid
      rw [timeoutDestroy, if_neg hinvalid]
  cases source <;> simp only [timeoutArm, hdestroy]

theorem CountedSources.timeoutArm (h : CountedSources s) (source : Option DispatchSource) :
    CountedSources (timeoutArm s source) := by
  have hdestroyed := h.timeoutDestroy
  have hinvalid := timeoutDestroy_valid s
  rw [timeoutArm_eq]
  cases source with
  | none =>
    refine ⟨fun k => ?_, hdestroyed.null, by simp [hinvalid]⟩
    have hcount := hdestroyed.once k
    simp only [hinvalid, Bool.false_eq_true, false_and, not_false_eq_true, and_true] at hcount ⊢
    exact hcount
  | some source =>
    refine ⟨fun k => ?_, hdestroyed.null, fun _ => ⟨_, by simp, rfl⟩⟩
    have hcount := hdestroyed.once k
    simp only [hinvalid, Bool.false_eq_true, false_and, not_false_eq_true, and_true] at hcount
    simp only [hcount, List.length_append, List.length_singleton, true_and, Option.some.injEq]
    congr 1
    apply propext
    omega

theorem timeoutArm_valid (s : TimeoutState) (source : Option DispatchSource) :
    (timeoutArm s source).timeout.valid = source.isSome := by
  rw [timeoutArm_eq]
  cases source with
  | none => exact timeoutDestroy_valid s
  | some source => rfl

theorem timeoutArm_armed {source : Option DispatchSource}
    (hsource : ∀ source' ∈ source, source'.fired = false ∧ source'.cancelled = false) :
    Armed (timeoutArm s source) := by
  rw [timeoutArm_eq]
  cases source with
  | none =>
    intro hvalid
    exact absurd hvalid (by simp [timeoutDestroy_valid])
  | some source =>
    rintro - k hk
    cases hk
    exact ⟨source, by simp, hsource source rfl⟩

/-- The creating functions differ in the source only. -/
theorem timeoutCall_eq (s : TimeoutState) (call : TimeoutCall) :
    timeoutCall s call = timeoutDestroy s ∧ call.arms = false ∨
      ∃ source : Option DispatchSource, timeoutCall s call = timeoutArm s source ∧
        call.arms = source.isSome ∧
        ∀ source' ∈ source, source'.fired = false ∧ source'.cancelled = false := by
  have htimer : ∀ (created : Bool) (queue : DispatchQueue) (milliseconds : Int) (context : Nat)
      (handler : TimeoutHandler),
      let source := if created then some (timerSource queue milliseconds context handler) else none
      created = source.isSome ∧
        ∀ source' ∈ source, source'.fired = false ∧ source'.cancelled = false := by
    intro created queue milliseconds context handler
    cases created <;> simp [timerSource]
  cases call with
  | create callback context milliseconds created => exact .inr ⟨_, rfl, htimer _ _ _ _ _⟩
  | createBlock block milliseconds created => exact .inr ⟨_, rfl, htimer _ _ _ _ _⟩
  | createQueue queue milliseconds block created => exact .inr ⟨_, rfl, htimer _ _ _ _ _⟩
  | destroy => exact .inl ⟨rfl, rfl⟩

theorem timeoutCall_valid (s : TimeoutState) (call : TimeoutCall) :
    (timeoutCall s call).timeout.valid = call.arms := by
  rcases timeoutCall_eq s call with ⟨heq, harms⟩ | ⟨source, heq, harms, -⟩
  · rw [heq, harms, timeoutDestroy_valid]
  · rw [heq, harms, timeoutArm_valid]

theorem CountedSources.timeoutCall (h : CountedSources s) (call : TimeoutCall) :
    CountedSources (timeoutCall s call) := by
  rcases timeoutCall_eq s call with ⟨heq, -⟩ | ⟨source, heq, -, -⟩
  · rw [heq]
    exact h.timeoutDestroy
  · rw [heq]
    exact h.timeoutArm source

theorem timeoutCall_armed (s : TimeoutState) (call : TimeoutCall) : Armed (timeoutCall s call) := by
  rcases timeoutCall_eq s call with ⟨heq, -⟩ | ⟨source, heq, -, hsource⟩
  · intro hvalid
    rw [heq, timeoutDestroy_valid] at hvalid
    cases hvalid
  · rw [heq]
    exact timeoutArm_armed hsource

/-- A timeout that owned its source has none after `timeout_destroy`. -/
theorem OwnsSource.not_live_destroy (h : OwnsSource s) {k : Nat} : ¬ (timeoutDestroy s).Live k := by
  unfold timeoutDestroy
  split
  · rename_i hvalid
    obtain ⟨j, hcurrent, -⟩ := h.valid.1 hvalid
    rw [Option.mem_def] at hcurrent
    rw [hcurrent]
    rintro ⟨⟨source, hsource, hfired, hcancelled⟩, hreleased⟩
    simp only [TimeoutState.release, TimeoutState.cancel, TimeoutState.setValid, List.mem_append,
      List.mem_singleton, Option.some.injEq, not_or, Option.mem_def] at hsource hreleased
    have hne : j ≠ k := fun heq => hreleased.2 heq.symm
    rw [List.getElem?_modify_ne _ _ hne] at hsource
    exact hne (Option.some.inj (hcurrent.symm.trans
      (h.current k ⟨⟨source, hsource, hfired, hcancelled⟩, hreleased.1⟩)))
  · rename_i hvalid
    exact fun hlive => hvalid (h.valid.2 ⟨k, h.current k hlive, hlive⟩)

/-- After the calls of a callback. -/
theorem CountedSources.calls (h : CountedSources s) (callback : List TimeoutCall) :
    CountedSources (callback.foldl UniversalNetwork.timeoutCall s) := by
  induction callback generalizing s with
  | nil => exact h
  | cons call callback ih => exact ih (h.timeoutCall call)

theorem calls_valid (s : TimeoutState) (callback : List TimeoutCall) :
    (callback.foldl timeoutCall s).timeout.valid =
      (callback.getLast?.map TimeoutCall.arms).getD s.timeout.valid := by
  rcases List.eq_nil_or_concat callback with rfl | ⟨calls, call, rfl⟩
  · rfl
  · rw [List.concat_eq_append, List.foldl_append, List.getLast?_concat]
    exact timeoutCall_valid _ call

end Calls

/-! ## Firing -/

section Firing

variable {s : TimeoutState} {k : Nat} {source : DispatchSource} {callback : List TimeoutCall}

/-- Up to the rest of the handler. -/
theorem timeoutFire_calls (h : CountedSources s) :
    ∃ s₁, CountedSources s₁ ∧ timeoutFire s k source callback =
        (s₁.setValid false).release s₁.timeout.timerDispatchSource ∧
      s₁.timeout.valid = (callback.getLast?.map TimeoutCall.arms).getD s.timeout.valid ∧
      (callback ≠ [] → Armed s₁) := by
  set s₀ : TimeoutState := { s with
    sources := s.sources.set k { source with fired := true }
    called := s.called ++ [({ s with
      sources := s.sources.set k { source with fired := true } } : TimeoutState).handlerCall
        source.handler] }
  have hcounted : CountedSources s₀ := by
    refine ⟨fun j => ?_, h.null, fun hvalid => ?_⟩
    · rw [h.once, List.length_set]
    · rw [List.length_set]
      exact h.current hvalid
  refine ⟨callback.foldl timeoutCall s₀, hcounted.calls callback, rfl, calls_valid s₀ callback, ?_⟩
  rcases List.eq_nil_or_concat callback with rfl | ⟨calls, call, rfl⟩
  · exact fun hne => absurd rfl hne
  · rw [List.concat_eq_append, List.foldl_append]
    exact fun _ => timeoutCall_armed _ call

theorem timeoutFire_counted (h : CountedSources s) (hlive : s.Live k)
    (hkeeps : ∀ call ∈ callback.getLast?, call.arms = true) :
    CountedSources (timeoutFire s k source callback) ∧ Armed (timeoutFire s k source callback) := by
  obtain ⟨s₁, h₁, heq, hvalid, -⟩ := @timeoutFire_calls s k source callback h
  rw [heq]
  have hinvalid : ((s₁.setValid false).release s₁.timeout.timerDispatchSource).timeout.valid =
      false := rfl
  refine ⟨h₁.invalidate ?_ rfl rfl rfl, fun hvalid => ?_⟩
  · rw [hvalid]
    cases hlast : callback.getLast? with
    | none => exact (h.current_of_live hlive).1
    | some call => exact hkeeps call hlast
  · rw [hinvalid] at hvalid
    cases hvalid

/-- After a callback that left the timeout destroyed, a source is released once more, or null. -/
theorem timeoutFire_not_owns (h : CountedSources s) {call : TimeoutCall}
    (hlast : callback.getLast? = some call) (harms : call.arms = false) :
    ¬ OwnsSource (timeoutFire s k source callback) := by
  obtain ⟨s₁, h₁, heq, hvalid, -⟩ := @timeoutFire_calls s k source callback h
  rw [hlast, Option.map_some, Option.getD_some, harms] at hvalid
  rw [heq]
  intro howns
  obtain ⟨j, hj, hcurrent⟩ := howns.sources s₁.timeout.timerDispatchSource (by
    simp [TimeoutState.release])
  have hreleased : some j ∈ s₁.released ++ [s₁.timeout.timerDispatchSource] := by
    simp [hcurrent]
  have honce := howns.once j hj fun hlive => hlive.2 hreleased
  have hbefore := h₁.once j
  rw [if_pos ⟨hj, by simp [hvalid]⟩] at hbefore
  simp only [TimeoutState.release, TimeoutState.setValid, hcurrent, List.count_append, hbefore,
    List.count_singleton_self] at honce
  omega

/-- A source that the callback creates has no reference after the handler, and is not live. -/
theorem timeoutFire_rearmed (h : CountedSources s) {call : TimeoutCall}
    (hlast : callback.getLast? = some call) (harms : call.arms = true) :
    let s' := timeoutFire s k source callback
    s'.timeout.valid = false ∧ ∃ j ∈ s'.timeout.timerDispatchSource, ¬ s'.Live j ∧
      ∃ source' ∈ s'.sources[j]?, source'.fired = false ∧ source'.cancelled = false := by
  obtain ⟨s₁, h₁, heq, hvalid, harmed⟩ := @timeoutFire_calls s k source callback h
  rw [hlast, Option.map_some, Option.getD_some, harms] at hvalid
  rw [heq]
  obtain ⟨j, -, hcurrent⟩ := h₁.current hvalid
  refine ⟨rfl, j, hcurrent, fun hlive => hlive.2 ?_, ?_⟩
  · simp [TimeoutState.release, hcurrent]
  · refine harmed ?_ hvalid j hcurrent
    rintro rfl
    cases hlast

end Firing

/-! ## Runs -/

theorem timeoutStep_isSome (s : TimeoutState) (action : TimeoutAction) :
    ∃ s', timeoutStep s action = some s' := by
  cases action with
  | call call => exact ⟨_, rfl⟩
  | fire k callback =>
    simp only [timeoutStep]
    split <;> exact ⟨_, rfl⟩

/-- **A timeout owns its source** in every state of a run exactly when no callback ends with its
timeout destroyed. -/
theorem timeout_owned_iff (actions : List TimeoutAction) :
    (∀ before after s, before ++ after = actions → run timeoutStep timeoutInit before = some s →
      OwnsSource s) ↔ Along timeoutStep KeepsValid timeoutInit actions := by
  obtain ⟨t, hrun, -⟩ := run_safe (P := fun _ => True) (s := timeoutInit) trivial
    (fun s action _ => (timeoutStep_isSome s action).imp fun _ h => ⟨h, trivial⟩) actions
  refine run_along_iff (P := fun s => CountedSources s ∧ Armed s) ⟨countedSources_init, ?_⟩
    (fun s h => h.1.ownsSource h.2) ?_ ?_ hrun
  · exact fun hvalid => absurd hvalid (by simp [timeoutInit])
  · rintro s action s' ⟨hcounted, harmed⟩ hkeeps hstep
    cases action with
    | call call =>
      cases hstep
      exact ⟨hcounted.timeoutCall call, timeoutCall_armed s call⟩
    | fire k callback =>
      simp only [timeoutStep] at hstep
      split at hstep <;> cases hstep
      · exact ⟨hcounted, harmed⟩
      · split
        · rename_i hlive
          exact timeoutFire_counted hcounted hlive (hkeeps hlive)
        · exact ⟨hcounted, harmed⟩
  · rintro s action s' ⟨hcounted, -⟩ hkeeps hstep
    cases action with
    | call call => exact absurd trivial hkeeps
    | fire k callback =>
      simp only [KeepsValid, not_forall, Bool.not_eq_true] at hkeeps
      obtain ⟨hlive, call, hlast, harms⟩ := hkeeps
      simp only [timeoutStep] at hstep
      split at hstep
      · rename_i hnone
        exact absurd hlive.lt (Nat.not_lt.2 (List.getElem?_eq_none_iff.1 hnone))
      · rw [if_pos hlive] at hstep
        cases hstep
        exact timeoutFire_not_owns hcounted hlast harms

/-- A callback that destroys its timeout: the source is released twice. -/
theorem timeout_released_twice :
    let actions : List TimeoutAction := [.call (.create 0 0 100 true), .fire 0 [.destroy]]
    ∃ s, run timeoutStep timeoutInit actions = some s ∧ s.released.count (some 0) = 2 ∧
      ¬ OwnsSource s := by
  refine ⟨_, rfl, by decide, fun h => ?_⟩
  exact absurd (h.once 0 (by decide) (by decide)) (by decide)

end UniversalNetwork
