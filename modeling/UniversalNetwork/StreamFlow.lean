import Mathlib.Data.Rat.Defs
import Mathlib.Algebra.Order.Ring.Rat

/-!
# Flow control (`stream_flow.h`, `stream_flow.c`)

Floats are read as exact rationals.
-/

namespace UniversalNetwork

def kStreamFlowModeBadRate : ℚ := 5
def kStreamFlowModeGoodRate : ℚ := 15
def kStreamFlowMaxRate : ℚ := kStreamFlowModeGoodRate

/-- 250 ms. -/
def kStreamFlowRttThreshold : ℚ := 1 / 4

inductive StreamFlowMode
  | good
  | bad
deriving DecidableEq, Repr

structure StreamFlow where
  mode : StreamFlowMode
  updateInterval : ℚ
  goodConditions : ℚ
  penalty : ℚ
  penaltyReductionAccumulator : ℚ
deriving DecidableEq, Repr

def streamFlowClear (_ref : StreamFlow) : StreamFlow where
  mode := .bad
  updateInterval := 1 / kStreamFlowModeBadRate
  penalty := 4
  goodConditions := 0
  penaltyReductionAccumulator := 0

/-- The first `if` of `streamFlowUpdate`: an update in good mode. -/
def streamFlowUpdateGood (ref : StreamFlow) (rtt deltaTime : ℚ) : StreamFlow :=
  if rtt > kStreamFlowRttThreshold then
    let penalty :=
      if ref.goodConditions < 10 ∧ ref.penalty < 60 then
        if ref.penalty * 2 > 60 then 60 else ref.penalty * 2
      else ref.penalty
    { mode := .bad, updateInterval := 1 / kStreamFlowModeBadRate, penalty,
      goodConditions := 0, penaltyReductionAccumulator := 0 }
  else
    let accumulator := ref.penaltyReductionAccumulator + deltaTime
    if accumulator > 10 ∧ ref.penalty > 1 then
      { ref with
        goodConditions := ref.goodConditions + deltaTime
        penalty := if ref.penalty / 2 < 1 then 1 else ref.penalty / 2
        penaltyReductionAccumulator := 0 }
    else
      { ref with
        goodConditions := ref.goodConditions + deltaTime
        penaltyReductionAccumulator := accumulator }

/-- The second `if` of `streamFlowUpdate`: an update in bad mode. -/
def streamFlowUpdateBad (ref : StreamFlow) (rtt deltaTime : ℚ) : StreamFlow :=
  let goodConditions := if rtt ≤ kStreamFlowRttThreshold then ref.goodConditions + deltaTime else 0
  if goodConditions > ref.penalty then
    { ref with
      goodConditions := 0
      penaltyReductionAccumulator := 0
      mode := .good
      updateInterval := 1 / kStreamFlowModeGoodRate }
  else { ref with goodConditions }

/-- Both blocks run in one call: an update that leaves good mode is also the first one in bad
mode. -/
def streamFlowUpdate (ref : StreamFlow) (rtt deltaTime : ℚ) : StreamFlow :=
  let ref := if ref.mode = .good then streamFlowUpdateGood ref rtt deltaTime else ref
  if ref.mode = .bad then streamFlowUpdateBad ref rtt deltaTime else ref

end UniversalNetwork
