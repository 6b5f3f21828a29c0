import UniversalNetwork.StreamFlow
import Mathlib.Data.List.DropRight
import Mathlib.Algebra.BigOperators.Group.List.Basic
import Mathlib.Tactic.Linarith
import Mathlib.Tactic.NormNum

/-!
# The modes of flow control

One accumulator, `goodConditions`, has two meanings: in good mode it is the time in that mode, in
bad mode the time of the calm samples in a row. `FlowHistory` keeps the samples since the current
mode was entered, and `FlowHistory.Tracked` says that the accumulator is what these say
(`Tracked.update`).

* `streamFlowUpdate_bad`, `streamFlowUpdate_leave`, `streamFlowUpdate_stay`: the three things an
  update can do.
* `flow_modes`: in every run, when each mode is left, and how the penalty changes.
-/

namespace UniversalNetwork

/-! ## One update -/

section Update

variable {ref : StreamFlow} {rtt deltaTime : ℚ}

theorem streamFlowUpdate_bad (h : ref.mode = .bad) :
    streamFlowUpdate ref rtt deltaTime = streamFlowUpdateBad ref rtt deltaTime := by
  simp [streamFlowUpdate, h]

theorem streamFlowUpdate_stay (h : ref.mode = .good) (hrtt : rtt ≤ kStreamFlowRttThreshold) :
    streamFlowUpdate ref rtt deltaTime = streamFlowUpdateGood ref rtt deltaTime ∧
      (streamFlowUpdateGood ref rtt deltaTime).mode = .good ∧
      (streamFlowUpdateGood ref rtt deltaTime).updateInterval = ref.updateInterval := by
  have hmode : (streamFlowUpdateGood ref rtt deltaTime).mode = .good ∧
      (streamFlowUpdateGood ref rtt deltaTime).updateInterval = ref.updateInterval := by
    unfold streamFlowUpdateGood
    rw [if_neg (not_lt.2 hrtt)]
    dsimp only
    split <;> exact ⟨h, rfl⟩
  refine ⟨?_, hmode⟩
  simp only [streamFlowUpdate, h, if_true]
  rw [hmode.1, if_neg nofun]

/-- The penalty after good mode is left. -/
def StreamFlow.raisedPenalty (ref : StreamFlow) : ℚ :=
  if ref.goodConditions < 10 ∧ ref.penalty < 60 then
    if ref.penalty * 2 > 60 then 60 else ref.penalty * 2
  else ref.penalty

theorem StreamFlow.le_raisedPenalty (ref : StreamFlow) (h : 0 ≤ ref.penalty) :
    ref.penalty ≤ ref.raisedPenalty := by
  unfold StreamFlow.raisedPenalty
  split
  · rename_i hlow
    split
    · exact hlow.2.le
    · linarith
  · exact le_refl _

/-- The second block runs as well, but a sample that ends good mode is not calm. -/
theorem streamFlowUpdate_leave (h : ref.mode = .good) (hrtt : kStreamFlowRttThreshold < rtt)
    (hpenalty : 0 ≤ ref.penalty) :
    streamFlowUpdate ref rtt deltaTime =
      { mode := .bad
        updateInterval := 1 / kStreamFlowModeBadRate
        penalty := ref.raisedPenalty
        goodConditions := 0
        penaltyReductionAccumulator := 0 } := by
  have hgood : streamFlowUpdateGood ref rtt deltaTime =
      { mode := .bad
        updateInterval := 1 / kStreamFlowModeBadRate
        penalty := ref.raisedPenalty
        goodConditions := 0
        penaltyReductionAccumulator := 0 } := by
    unfold streamFlowUpdateGood StreamFlow.raisedPenalty
    rw [if_pos hrtt]
  have hraised : ¬ (0 : ℚ) > ref.raisedPenalty :=
    not_lt.2 (hpenalty.trans (ref.le_raisedPenalty hpenalty))
  simp only [streamFlowUpdate, h, if_true, hgood]
  unfold streamFlowUpdateBad
  simp only [if_neg (not_le.2 hrtt), if_neg hraised]

end Update

/-! ## Histories -/

structure FlowSample where
  rtt : ℚ
  deltaTime : ℚ

def FlowSample.calm (u : FlowSample) : Bool := u.rtt ≤ kStreamFlowRttThreshold

def totalTime (us : List FlowSample) : ℚ := (us.map (·.deltaTime)).sum

/-- The time of the calm samples at the end. -/
def calmTime (us : List FlowSample) : ℚ := totalTime (us.rtakeWhile (·.calm))

theorem totalTime_concat (us : List FlowSample) (u : FlowSample) :
    totalTime (us ++ [u]) = totalTime us + u.deltaTime := by
  simp [totalTime]

theorem calmTime_concat (us : List FlowSample) (u : FlowSample) :
    calmTime (us ++ [u]) = if u.calm then calmTime us + u.deltaTime else 0 := by
  unfold calmTime
  rw [List.rtakeWhile_concat]
  split
  · exact totalTime_concat _ _
  · rfl

/-- The flow control with the samples since it entered its mode. -/
structure FlowHistory where
  flow : StreamFlow
  since : List FlowSample

namespace FlowHistory

def clear (ref : StreamFlow) : FlowHistory := ⟨streamFlowClear ref, []⟩

/-- A sample that changes the mode is the last one of the old mode. -/
def update (h : FlowHistory) (u : FlowSample) : FlowHistory :=
  let flow := streamFlowUpdate h.flow u.rtt u.deltaTime
  ⟨flow, if flow.mode = h.flow.mode then h.since ++ [u] else []⟩

def updates (h : FlowHistory) (us : List FlowSample) : FlowHistory := us.foldl update h

/-- The accumulator is the time in good mode, or the calm time in bad mode. -/
structure Tracked (h : FlowHistory) : Prop where
  one_le : 1 ≤ h.flow.penalty
  le_sixty : h.flow.penalty ≤ 60
  interval : h.flow.updateInterval = if h.flow.mode = .good then 1 / 15 else 1 / 5
  good : h.flow.mode = .good → h.flow.goodConditions = totalTime h.since
  bad : h.flow.mode = .bad → h.flow.goodConditions = calmTime h.since

theorem Tracked.clear (ref : StreamFlow) : Tracked (clear ref) := by
  refine ⟨?_, ?_, ?_, nofun, fun _ => rfl⟩
  · norm_num [FlowHistory.clear, streamFlowClear]
  · norm_num [FlowHistory.clear, streamFlowClear]
  · simp [FlowHistory.clear, streamFlowClear, kStreamFlowModeBadRate]

/-- An update in bad mode: it ends when the calm time exceeds the penalty. -/
theorem Tracked.update_bad {h : FlowHistory} (ht : Tracked h) (hmode : h.flow.mode = .bad)
    (u : FlowSample) :
    streamFlowUpdate h.flow u.rtt u.deltaTime =
      if h.flow.penalty < calmTime (h.since ++ [u]) then
        { h.flow with
          goodConditions := 0
          penaltyReductionAccumulator := 0
          mode := .good
          updateInterval := 1 / kStreamFlowModeGoodRate }
      else { h.flow with goodConditions := calmTime (h.since ++ [u]) } := by
  have hcalm : (if u.rtt ≤ kStreamFlowRttThreshold then h.flow.goodConditions + u.deltaTime else 0) =
      calmTime (h.since ++ [u]) := by
    rw [calmTime_concat, ht.bad hmode]
    simp [FlowSample.calm]
  rw [streamFlowUpdate_bad hmode, streamFlowUpdateBad]
  simp only [hcalm, gt_iff_lt]

theorem Tracked.update {h : FlowHistory} (ht : Tracked h) (u : FlowSample) :
    Tracked (h.update u) := by
  have hone := ht.one_le
  have hsixty := ht.le_sixty
  cases hmode : h.flow.mode with
  | bad =>
    have hupdate := ht.update_bad hmode u
    have hinterval := ht.interval
    rw [hmode, if_neg nofun] at hinterval
    unfold FlowHistory.update
    rw [hupdate]
    by_cases hleaves : h.flow.penalty < calmTime (h.since ++ [u])
    · simp only [if_pos hleaves, hmode]
      exact ⟨hone, hsixty, by simp [kStreamFlowModeGoodRate], fun _ => by simp [totalTime], nofun⟩
    · simp only [if_neg hleaves]
      exact ⟨hone, hsixty, by simp [hmode, hinterval], fun hgood => absurd (hmode.symm.trans hgood)
        nofun, fun _ => by simp⟩
  | good =>
    have hinterval := ht.interval
    rw [hmode, if_pos rfl] at hinterval
    rcases le_or_gt u.rtt kStreamFlowRttThreshold with hcalm | hrtt
    · obtain ⟨hupdate, hstay, hsame⟩ := @streamFlowUpdate_stay _ _ u.deltaTime hmode hcalm
      unfold FlowHistory.update
      dsimp only
      rw [hupdate, hstay, hmode, if_pos rfl]
      have hpenalty : 1 ≤ (streamFlowUpdateGood h.flow u.rtt u.deltaTime).penalty ∧
          (streamFlowUpdateGood h.flow u.rtt u.deltaTime).penalty ≤ 60 ∧
          (streamFlowUpdateGood h.flow u.rtt u.deltaTime).goodConditions =
            h.flow.goodConditions + u.deltaTime := by
        unfold streamFlowUpdateGood
        rw [if_neg (not_lt.2 hcalm)]
        dsimp only
        split
        · refine ⟨?_, ?_, rfl⟩ <;> dsimp only <;> split <;> linarith
        · exact ⟨hone, hsixty, rfl⟩
      refine ⟨hpenalty.1, hpenalty.2.1, ?_, fun _ => ?_, fun hbad => ?_⟩
      · rw [hsame, hinterval, hstay, if_pos rfl]
      · rw [hpenalty.2.2, ht.good hmode, totalTime_concat]
      · exact absurd (hstay.symm.trans hbad) nofun
    · unfold FlowHistory.update
      dsimp only
      rw [streamFlowUpdate_leave hmode hrtt (by linarith), hmode, if_neg nofun]
      have hraised := h.flow.le_raisedPenalty (by linarith)
      have hcap : h.flow.raisedPenalty ≤ 60 := by
        unfold StreamFlow.raisedPenalty
        split
        · split <;> linarith
        · exact hsixty
      exact ⟨hone.trans hraised, hcap, by simp [kStreamFlowModeBadRate], nofun, fun _ => rfl⟩

theorem Tracked.updates {h : FlowHistory} (ht : Tracked h) (us : List FlowSample) :
    Tracked (h.updates us) := by
  induction us generalizing h with
  | nil => exact ht
  | cons u us ih => exact ih (ht.update u)

/-- What an update may do to the penalty: good mode is left after less than 10 s, or it is kept. -/
inductive PenaltyChange (h : FlowHistory) (flow : StreamFlow) : Prop
  | same (heq : flow.penalty = h.flow.penalty)
  | doubled (hleft : h.flow.mode = .good ∧ flow.mode = .bad) (hshort : totalTime h.since < 10)
    (heq : flow.penalty = min (h.flow.penalty * 2) 60)
  | halved (hkept : h.flow.mode = .good ∧ flow.mode = .good)
    (heq : flow.penalty = max (h.flow.penalty / 2) 1)

theorem Tracked.penaltyChange {h : FlowHistory} (ht : Tracked h) (rtt deltaTime : ℚ) :
    PenaltyChange h (streamFlowUpdate h.flow rtt deltaTime) := by
  have hone := ht.one_le
  cases hmode : h.flow.mode with
  | bad =>
    refine .same ?_
    rw [ht.update_bad hmode ⟨rtt, deltaTime⟩]
    split <;> rfl
  | good =>
    rcases le_or_gt rtt kStreamFlowRttThreshold with hcalm | hrtt
    · obtain ⟨hupdate, hstay, -⟩ := @streamFlowUpdate_stay _ _ deltaTime hmode hcalm
      rw [hupdate]
      by_cases hreduce : h.flow.penaltyReductionAccumulator + deltaTime > 10 ∧ h.flow.penalty > 1
      · refine .halved ⟨hmode, hstay⟩ ?_
        unfold streamFlowUpdateGood
        rw [if_neg (not_lt.2 hcalm)]
        simp only [if_pos hreduce]
        split
        · rename_i hlow
          rw [max_eq_right hlow.le]
        · rename_i hlow
          rw [max_eq_left (not_lt.1 hlow)]
      · refine .same ?_
        unfold streamFlowUpdateGood
        rw [if_neg (not_lt.2 hcalm)]
        simp only [if_neg hreduce]
    · rw [streamFlowUpdate_leave hmode hrtt (by linarith)]
      by_cases hraise : h.flow.goodConditions < 10 ∧ h.flow.penalty < 60
      · refine .doubled ⟨hmode, rfl⟩ (ht.good hmode ▸ hraise.1) ?_
        simp only [StreamFlow.raisedPenalty, if_pos hraise]
        split
        · rename_i hhigh
          rw [min_eq_right hhigh.le]
        · rename_i hhigh
          rw [min_eq_left (not_lt.1 hhigh)]
      · refine .same ?_
        simp only [StreamFlow.raisedPenalty, if_neg hraise]

end FlowHistory

open FlowHistory in
/-- **The modes of flow control**: after every run of updates the penalty is between 1 and 60 and
the interval is the one of the mode; the next update leaves good mode exactly if its rtt is above
the threshold and bad mode exactly if the calm samples up to it, since bad mode was entered, last
longer than the penalty; and the penalty changes only as `PenaltyChange` says. -/
theorem flow_modes (ref : StreamFlow) (us : List FlowSample) (u : FlowSample) :
    let h := (clear ref).updates us
    let flow := streamFlowUpdate h.flow u.rtt u.deltaTime
    (1 ≤ h.flow.penalty ∧ h.flow.penalty ≤ 60 ∧
      h.flow.updateInterval = if h.flow.mode = .good then 1 / 15 else 1 / 5) ∧
    (h.flow.mode = .good → (flow.mode = .bad ↔ 1 / 4 < u.rtt)) ∧
    (h.flow.mode = .bad → (flow.mode = .good ↔ h.flow.penalty < calmTime (h.since ++ [u]))) ∧
    PenaltyChange h flow := by
  intro h flow
  have ht : Tracked h := (Tracked.clear ref).updates us
  have hone := ht.one_le
  refine ⟨⟨hone, ht.le_sixty, ht.interval⟩, fun hmode => ?_, fun hmode => ?_,
    ht.penaltyChange u.rtt u.deltaTime⟩
  · show _ ↔ kStreamFlowRttThreshold < u.rtt
    rcases le_or_gt u.rtt kStreamFlowRttThreshold with hcalm | hrtt
    · obtain ⟨hupdate, hstay, -⟩ := @streamFlowUpdate_stay _ _ u.deltaTime hmode hcalm
      have hgood : flow.mode = .good := (congrArg StreamFlow.mode hupdate).trans hstay
      simp [hgood, not_lt.2 hcalm]
    · have hleft : flow.mode = .bad := by
        rw [show flow = _ from streamFlowUpdate_leave hmode hrtt (by linarith)]
      simp [hleft, hrtt]
  · rw [show flow = _ from ht.update_bad hmode u]
    split
    · rename_i hleaves
      simp [hleaves]
    · rename_i hleaves
      simp [hleaves, hmode]

end UniversalNetwork
