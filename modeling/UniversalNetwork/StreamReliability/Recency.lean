import UniversalNetwork.StreamReliability
import Mathlib.Logic.Function.Iterate

/-!
# Recency of sequences

The sender's counter runs through the 65535 values below `kStreamReliabilityMaxSequence`, one for
each packet. `recent_iff`: a value is more recent than another one just when the counter comes to it
within the next 32767 packets, which is half of its way around, so of two values one is more recent.
-/

namespace UniversalNetwork

/-- The sender's counter, some packets later. -/
def increased (sequence packets : Nat) : Nat :=
  (increase · kStreamReliabilityMaxSequence)^[packets] sequence

theorem increased_eq {s : Nat} (hs : s < kStreamReliabilityMaxSequence) (k : Nat) :
    increased s k = (s + k) % kStreamReliabilityMaxSequence := by
  induction k with
  | zero => exact (Nat.mod_eq_of_lt hs).symm
  | succ k ih =>
    rw [increased] at ih ⊢
    rw [Function.iterate_succ_apply', ih, increase, Nat.mod_add_mod, Nat.add_assoc]

theorem moreRecent_increased_iff {s k : Nat} (hs : s < kStreamReliabilityMaxSequence)
    (hk : k < kStreamReliabilityMaxSequence) :
    isSequenceMoreRecent (increased s k) s kStreamReliabilityMaxSequence = true ↔
      1 ≤ k ∧ k ≤ 32767 := by
  have hhalf : kStreamReliabilityMaxSequence / 2 = 32767 := by decide
  rw [increased_eq hs]
  simp only [isSequenceMoreRecent, hhalf, Bool.or_eq_true, Bool.and_eq_true, decide_eq_true_eq]
  simp only [kStreamReliabilityMaxSequence] at hs hk ⊢
  rcases Nat.lt_or_ge (s + k) 0xFFFF with hlt | hge
  · -- The counter has not started again: the later value is the greater one.
    rw [Nat.mod_eq_of_lt hlt]
    omega
  · have hwrap : (s + k) % 0xFFFF = s + k - 0xFFFF := by omega
    rw [hwrap]
    omega

/-! ## The sender -/

theorem packetSent_sequence {ref ref' : StreamReliability} {size : Nat}
    (h : streamReliabilityPacketSent ref size = some ref') :
    ref'.sequence = increase ref.sequence kStreamReliabilityMaxSequence := by
  obtain ⟨packets, -, h⟩ := Option.bind_eq_some_iff.1 h
  dsimp only at h
  split at h
  · cases h
    unfold discardOverwritten
    dsimp only
    split <;> split <;> rfl
  · cases h

theorem sent_sequence {sizes : List Nat} : ∀ {ref ref' : StreamReliability},
    sizes.foldlM streamReliabilityPacketSent ref = some ref' →
      ref'.sequence = increased ref.sequence sizes.length := by
  induction sizes with
  | nil =>
    intro ref ref' h
    cases h
    rfl
  | cons size sizes ih =>
    intro ref ref' h
    obtain ⟨ref₁, hsent, h⟩ := Option.bind_eq_some_iff.1 h
    rw [ih h, packetSent_sequence hsent]
    rfl

/-- After fewer packets than the counter has values, its new value is more recent than the old one
just when they are at most half as many. -/
theorem moreRecent_sent_iff {sizes : List Nat} {ref ref' : StreamReliability}
    (hsequence : ref.sequence < kStreamReliabilityMaxSequence)
    (hlength : sizes.length < kStreamReliabilityMaxSequence)
    (h : sizes.foldlM streamReliabilityPacketSent ref = some ref') :
    isSequenceMoreRecent ref'.sequence ref.sequence kStreamReliabilityMaxSequence = true ↔
      1 ≤ sizes.length ∧ sizes.length ≤ 32767 := by
  rw [sent_sequence h]
  exact moreRecent_increased_iff hsequence hlength

/-! ## Any two values -/

/-- Every value is ahead of every other by some number of packets. -/
theorem exists_increased {s t : Nat} (hs : s < kStreamReliabilityMaxSequence)
    (ht : t < kStreamReliabilityMaxSequence) :
    ∃ k < kStreamReliabilityMaxSequence, t = increased s k := by
  simp only [increased_eq hs]
  simp only [kStreamReliabilityMaxSequence] at hs ht ⊢
  rcases Nat.lt_or_ge t s with hlt | hge
  · exact ⟨t + 0xFFFF - s, by omega, by omega⟩
  · exact ⟨t - s, by omega, by omega⟩

/-- **A value is more recent than another exactly when the counter takes it within half of its way
around after it**; so one of two different values is more recent, and the other is not. -/
theorem recent_iff :
    (∀ s k, s < kStreamReliabilityMaxSequence → k < kStreamReliabilityMaxSequence →
      (isSequenceMoreRecent (increased s k) s kStreamReliabilityMaxSequence = true ↔
        1 ≤ k ∧ k ≤ 32767)) ∧
    ∀ s t, s < kStreamReliabilityMaxSequence → t < kStreamReliabilityMaxSequence → s ≠ t →
      isSequenceMoreRecent t s kStreamReliabilityMaxSequence =
        !isSequenceMoreRecent s t kStreamReliabilityMaxSequence := by
  refine ⟨fun s k hs hk => moreRecent_increased_iff hs hk, fun s t hs ht hne => ?_⟩
  obtain ⟨k, hk, rfl⟩ := exists_increased hs ht
  obtain ⟨n, hn, hback⟩ := exists_increased ht hs
  -- The way there and the way back are once around.
  have hsum : k + n = kStreamReliabilityMaxSequence := by
    rw [increased_eq ht, increased_eq hs] at hback
    rw [increased_eq hs] at hne
    simp only [kStreamReliabilityMaxSequence] at hs hk hn hback hne ⊢
    omega
  have hthere := moreRecent_increased_iff hs hk
  have hagain := moreRecent_increased_iff ht hn
  rw [← hback] at hagain
  rw [Bool.eq_iff_iff, Bool.not_eq_true', ← Bool.not_eq_true, hthere, hagain]
  simp only [kStreamReliabilityMaxSequence] at hsum hk hn
  omega

/-- Across the end of the range, at both ends of the half. -/
theorem recent_iff_wrapped :
    isSequenceMoreRecent (increased 65534 32767) 65534 kStreamReliabilityMaxSequence = true ∧
      isSequenceMoreRecent 32766 65534 kStreamReliabilityMaxSequence =
        !isSequenceMoreRecent 65534 32766 kStreamReliabilityMaxSequence :=
  ⟨(recent_iff.1 65534 32767 (by decide) (by decide)).2 (by decide),
    recent_iff.2 65534 32766 (by decide) (by decide) (by decide)⟩

end UniversalNetwork
