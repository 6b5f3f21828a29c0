import UniversalNetwork.Lib.Machine
import UniversalNetwork.StreamReliability
import Mathlib.Tactic.Linarith
import Mathlib.Order.Lattice

/-!
# The receiver's window is exact

`processSequence_cases` says once what `streamReliabilityProcessSequence` does with a 16-bit
sequence: it is `n` ahead of `ack` modulo 65536 and shifts the field by `n`, or `n` behind and sets
bit `n`.

Arrivals get unwrapped positions (`ReceiverState.arrive`). As long as every arrival is at most 31
ahead and 32767 behind, `ack` is the wire value of the greatest position and the bit field is the
set of positions received among the last 32 (`receiver_window_exact`). Without that condition an
arrival is still reported back, except one that is newer by 32 or more (`arrival_reported_iff`).
-/

namespace UniversalNetwork

open Lib

/-! ## One arrival -/

theorem and_allOnes32 (x : BitVec 32) : x &&& 0xFFFFFFFF#32 = x := by
  rw [show (0xFFFFFFFF#32) = BitVec.allOnes 32 by decide, BitVec.and_allOnes]

/-- **What one 16-bit arrival does**: newer by `n` or older by `n`, modulo 65536. -/
theorem processSequence_cases (ref : StreamReliability) {s : Nat} (hs : s < 65536)
    (ha : ref.ack < 65536) :
    (∃ n, 1 ≤ n ∧ n ≤ 32768 ∧ (ref.ack + n) % 65536 = s ∧
      streamReliabilityProcessSequence ref s =
        { ref with
          ack := s
          ackBits := if n < 32 then (ref.ackBits <<< n) ||| 1#32 else 0#32 }) ∨
    (∃ n, n ≤ 32768 ∧ (s + n) % 65536 = ref.ack ∧
      streamReliabilityProcessSequence ref s =
        { ref with
          ackBits := if n < 32 then ref.ackBits ||| (1#32 <<< n) else ref.ackBits }) := by
  unfold streamReliabilityProcessSequence
  simp only [and_allOnes32, kStreamReliabilityMaxSequence]
  by_cases hr : isSequenceMoreRecent s ref.ack 0xFFFF = true
  · rw [if_pos hr]
    simp only [isSequenceMoreRecent, Bool.or_eq_true, Bool.and_eq_true, decide_eq_true_eq] at hr
    refine .inl ⟨_, ?_, ?_, ?_, rfl⟩ <;> split <;> omega
  · rw [if_neg hr]
    simp only [isSequenceMoreRecent, Bool.or_eq_true, Bool.and_eq_true, decide_eq_true_eq] at hr
    refine .inr ⟨_, ?_, ?_, rfl⟩ <;> split <;> omega

theorem getLsbD_shift_or_one (x : BitVec 32) {n k : Nat} (hk : k < 32) :
    ((x <<< n) ||| 1#32).getLsbD k = true ↔ k = 0 ∨ n ≤ k ∧ x.getLsbD (k - n) = true := by
  rw [BitVec.getLsbD_or, BitVec.getLsbD_shiftLeft]
  by_cases h0 : k = 0
  · subst h0
    simp
  · simp [h0, hk]

theorem getLsbD_or_one_shift (x : BitVec 32) {n k : Nat} (hk : k < 32) :
    (x ||| (1#32 <<< n)).getLsbD k = true ↔ x.getLsbD k = true ∨ k = n := by
  rw [BitVec.getLsbD_or, BitVec.getLsbD_shiftLeft, Bool.or_eq_true]
  refine or_congr_right ⟨fun h => ?_, fun h => ?_⟩
  · simp only [BitVec.getLsbD_one, Bool.and_eq_true, decide_eq_true_eq, Bool.not_eq_true',
      decide_eq_false_iff_not] at h
    omega
  · subst h
    simp [hk]

/-! ## Reporting an arrival back -/

/-- How far a sequence is behind the ack, modulo 65536. -/
def StreamReliability.behind (ref : StreamReliability) (s : Nat) : Nat :=
  (ref.ack + 65536 - s) % 65536

/-- The next packet tells the peer that `s` has arrived, unless the window has left it behind. -/
def StreamReliability.Reports (ref : StreamReliability) (s : Nat) : Prop :=
  32 ≤ ref.behind s ∨ ref.ackBits.getLsbD (ref.behind s) = true

instance (ref : StreamReliability) (s : Nat) : Decidable (ref.Reports s) :=
  inferInstanceAs (Decidable (32 ≤ ref.behind s ∨ ref.ackBits.getLsbD (ref.behind s) = true))

/-- A newer sequence that is more than the width of the field ahead. -/
def StreamReliability.Outruns (ref : StreamReliability) (s : Nat) : Prop :=
  isSequenceMoreRecent s ref.ack kStreamReliabilityMaxSequence = true ∧
    32 ≤ (s + 65536 - ref.ack) % 65536

theorem processSequence_newer {ref : StreamReliability} {s : Nat} (hs : s < 65536)
    (ha : ref.ack < 65536)
    (hr : isSequenceMoreRecent s ref.ack kStreamReliabilityMaxSequence = true) :
    streamReliabilityProcessSequence ref s =
      { ref with
        ack := s
        ackBits :=
          if (s + 65536 - ref.ack) % 65536 < 32 then
            (ref.ackBits <<< ((s + 65536 - ref.ack) % 65536)) ||| 1#32
          else 0#32 } := by
  rw [streamReliabilityProcessSequence, if_pos hr]
  simp only [isSequenceMoreRecent, kStreamReliabilityMaxSequence, Bool.or_eq_true,
    Bool.and_eq_true, decide_eq_true_eq] at hr
  have hshifts : (if s > ref.ack then s - ref.ack
      else (s + 2 ^ 32 - ref.ack + 0xFFFF + 1) % 2 ^ 32) = (s + 65536 - ref.ack) % 65536 := by
    split <;> omega
  simp only [and_allOnes32, kStreamReliabilityMaxSequence, hshifts]

theorem processSequence_older {ref : StreamReliability} {s : Nat} (hs : s < 65536)
    (ha : ref.ack < 65536)
    (hr : ¬ isSequenceMoreRecent s ref.ack kStreamReliabilityMaxSequence = true) :
    streamReliabilityProcessSequence ref s =
      { ref with
        ackBits :=
          if ref.behind s < 32 then ref.ackBits ||| (1#32 <<< ref.behind s)
          else ref.ackBits } := by
  rw [streamReliabilityProcessSequence, if_neg hr]
  have hshifts : (if ref.ack ≥ s then ref.ack - s
      else (ref.ack + 2 ^ 32 - s + 0xFFFF + 1) % 2 ^ 32) = ref.behind s := by
    unfold StreamReliability.behind
    split <;> omega
  simp only [and_allOnes32, kStreamReliabilityMaxSequence, hshifts]

/-- **An arrival is reported back exactly when it does not outrun the field**: a newer sequence 32
or more ahead clears the field and leaves its own bit, bit 0, unset. -/
theorem arrival_reported_iff (ref : StreamReliability) (s : Nat) (hs : s < 65536)
    (ha : ref.ack < 65536) :
    (streamReliabilityProcessSequence ref s).Reports s ↔ ¬ ref.Outruns s := by
  by_cases hr : isSequenceMoreRecent s ref.ack kStreamReliabilityMaxSequence = true
  · -- the arrival is the new ack: its bit is bit 0
    rw [processSequence_newer hs ha hr]
    have hbehind : (s + 65536 - s) % 65536 = 0 := by omega
    simp only [StreamReliability.Reports, StreamReliability.behind, StreamReliability.Outruns, hr,
      hbehind, true_and]
    by_cases hjump : (s + 65536 - ref.ack) % 65536 < 32
    · rw [if_pos hjump]
      have hbit := (getLsbD_shift_or_one ref.ackBits
        (n := (s + 65536 - ref.ack) % 65536) (k := 0) (by decide)).2 (.inl rfl)
      simp only [hbit, or_true, true_iff]
      omega
    · simp only [if_neg hjump, BitVec.getLsbD_zero, Bool.false_eq_true, or_false]
      omega
  · rw [processSequence_older hs ha hr]
    have hout : ¬ ref.Outruns s := fun h => hr h.1
    simp only [hout, not_false_eq_true, iff_true]
    by_cases hwin : ref.behind s < 32
    · right
      simp only [if_pos hwin]
      exact (getLsbD_or_one_shift ref.ackBits hwin).2 (.inr rfl)
    · exact .inl (Nat.le_of_not_lt hwin)

/-- A jump of 31 over the wrap is reported. -/
theorem arrival_reported_wrap :
    (streamReliabilityProcessSequence { StreamReliability.zeroed with ack := 65520 } 15).Reports 15 :=
  (arrival_reported_iff { StreamReliability.zeroed with ack := 65520 } 15 (by decide)
    (by decide)).2 fun h => absurd h.2 (by decide)

/-- The first arrival of a cleared receiver, 32 ahead: it becomes the ack with an empty field. -/
theorem arrival_outrun :
    (streamReliabilityProcessSequence StreamReliability.zeroed 32).ack = 32 ∧
      (streamReliabilityProcessSequence StreamReliability.zeroed 32).ackBits = 0#32 ∧
      ¬ (streamReliabilityProcessSequence StreamReliability.zeroed 32).Reports 32 := by
  decide +kernel

/-! ## Positions -/

/-- The receiver together with the unwrapped positions of the arrivals so far. -/
structure ReceiverState where
  ref : StreamReliability
  seen : List Int

namespace ReceiverState

/-- The greatest of 0 and the positions seen. -/
def position (r : ReceiverState) : Int := r.seen.foldr max 0

/-- The signed distance of a sequence from the current ack, modulo 65536. -/
def distance (r : ReceiverState) (s : Nat) : Int := ((s : Int) - r.ref.ack).bmod 65536

/-- An arrival is processed and recorded at its position. -/
def arrive (r : ReceiverState) (s : Nat) : ReceiverState where
  ref := streamReliabilityProcessSequence r.ref s
  seen := (r.position + r.distance s) :: r.seen

/-- A 16-bit arrival at most 31 ahead of the ack and at most 32767 behind it. -/
def Near (r : ReceiverState) (s : Nat) : Prop :=
  s < 65536 ∧ -32767 ≤ r.distance s ∧ r.distance s ≤ 31

instance (r : ReceiverState) (s : Nat) : Decidable (r.Near s) :=
  inferInstanceAs (Decidable (_ ∧ _ ∧ _))

theorem distance_eq (r : ReceiverState) (s : Nat) :
    ∃ q : Int, r.distance s = (s : Int) - r.ref.ack + 65536 * q ∧ -32768 ≤ r.distance s ∧
      r.distance s < 32768 := by
  refine ⟨-Int.bdiv ((s : Int) - r.ref.ack) 65536, ?_, ?_, ?_⟩
  · have h := Int.bmod_add_bdiv ((s : Int) - r.ref.ack) 65536
    unfold distance
    push_cast at h
    omega
  · exact Int.le_bmod (by decide)
  · exact Int.bmod_lt (by decide)

theorem le_position (r : ReceiverState) : ∀ q ∈ r.seen, q ≤ r.position := by
  unfold position
  induction r.seen with
  | nil => simp
  | cons p ps ih =>
    intro q hq
    rcases List.mem_cons.1 hq with rfl | hq
    · exact le_max_left _ _
    · exact le_trans (ih q hq) (le_max_right _ _)

theorem position_arrive (r : ReceiverState) (s : Nat) :
    (r.arrive s).position = max (r.position + r.distance s) r.position := rfl

/-- `ack` is the wire value of the greatest position, the field the positions received among
the 32 up to it. -/
structure Exact (r : ReceiverState) : Prop where
  ack : (r.ref.ack : Int) = r.position % 65536
  bits : ∀ k < 32, r.ref.ackBits.getLsbD k = true ↔ r.position - (k : Int) ∈ r.seen

theorem Exact.ack_lt {r : ReceiverState} (h : Exact r) : r.ref.ack < 65536 := by
  have := h.ack
  omega

/-- One arrival near the ack keeps the window exact. -/
theorem Exact.arrive {r : ReceiverState} (h : Exact r) {s : Nat} (hs : r.Near s) :
    Exact (r.arrive s) := by
  obtain ⟨hlt, hlo, hhi⟩ := hs
  obtain ⟨q, hd, -, -⟩ := r.distance_eq s
  have hack := h.ack
  have hmod := h.ack_lt
  rcases processSequence_cases r.ref hlt h.ack_lt with
    ⟨n, hn1, hn2, hns, hp⟩ | ⟨n, hn, hns, hp⟩
  · -- newer: the distance is `n`, the field shifts by it
    have hdn : r.distance s = n := by omega
    have hpos : (r.arrive s).position = r.position + n := by
      rw [position_arrive, hdn]
      exact max_eq_left (by omega)
    have hn32 : n < 32 := by omega
    refine ⟨?_, fun k hk => ?_⟩
    · rw [hpos]
      show (((streamReliabilityProcessSequence r.ref s).ack : Nat) : Int) = _
      rw [hp]
      show ((s : Nat) : Int) = _
      omega
    · rw [hpos]
      show (streamReliabilityProcessSequence r.ref s).ackBits.getLsbD k = true ↔
        _ ∈ (r.position + r.distance s) :: r.seen
      rw [hp, hdn]
      simp only [hn32, ↓reduceIte]
      rw [getLsbD_shift_or_one _ hk, List.mem_cons]
      refine or_congr (by omega) ⟨fun ⟨hnk, hb⟩ => ?_, fun hm => ?_⟩
      · have := (h.bits (k - n) (by omega)).1 hb
        rwa [show r.position + (n : Int) - k = r.position - ((k - n : Nat) : Int) by omega]
      · have hle := r.le_position _ hm
        have hnk : n ≤ k := by omega
        refine ⟨hnk, (h.bits (k - n) (by omega)).2 ?_⟩
        rwa [show r.position - ((k - n : Nat) : Int) = r.position + (n : Int) - k by omega]
  · -- not newer: the distance is `-n`, only bit `n` can change
    have hdn : r.distance s = -n := by omega
    have hpos : (r.arrive s).position = r.position := by
      rw [position_arrive, hdn]
      exact max_eq_right (by omega)
    refine ⟨?_, fun k hk => ?_⟩
    · rw [hpos]
      show (((streamReliabilityProcessSequence r.ref s).ack : Nat) : Int) = _
      rw [hp]
      exact hack
    · rw [hpos]
      show (streamReliabilityProcessSequence r.ref s).ackBits.getLsbD k = true ↔
        _ ∈ (r.position + r.distance s) :: r.seen
      rw [hp, hdn, List.mem_cons]
      by_cases hn32 : n < 32
      · simp only [hn32, ↓reduceIte]
        rw [getLsbD_or_one_shift _ hk, h.bits k hk, or_comm]
        exact or_congr_left (by omega)
      · simp only [hn32, ↓reduceIte]
        rw [h.bits k hk]
        refine ⟨.inr, fun hm => ?_⟩
        rcases hm with hm | hm
        · omega
        · exact hm

/-- The cleared receiver before any arrival. -/
def cleared (ref : StreamReliability) : ReceiverState := ⟨streamReliabilityClear ref, []⟩

theorem Exact.cleared (ref : StreamReliability) : Exact (cleared ref) :=
  ⟨rfl, fun k _ => by simp [ReceiverState.cleared, streamReliabilityClear,
    StreamReliability.zeroed]⟩

/-- The receiver after the arrivals `ss`, in order. -/
def arrivals (r : ReceiverState) (ss : List Nat) : ReceiverState := ss.foldl arrive r

/-- Each arrival of `ss` is near the ack of its moment. -/
def AllNear : ReceiverState → List Nat → Prop
  | _, [] => True
  | r, s :: ss => r.Near s ∧ AllNear (r.arrive s) ss

instance AllNear.decidable : ∀ (r : ReceiverState) (ss : List Nat), Decidable (r.AllNear ss)
  | _, [] => .isTrue trivial
  | r, s :: ss =>
    have := AllNear.decidable (r.arrive s) ss
    inferInstanceAs (Decidable (_ ∧ _))

theorem Exact.arrivals {r : ReceiverState} (h : Exact r) :
    ∀ {ss : List Nat}, r.AllNear ss → Exact (r.arrivals ss) := by
  intro ss hss
  induction ss generalizing r with
  | nil => exact h
  | cons s ss ih => exact ih (h.arrive hss.1) hss.2

end ReceiverState

open ReceiverState in
/-- **Receiver window exactness**: for arrivals in any order, with duplicates, losses and any
number of wraps, each near the current ack, `ack` is the wire value of the greatest of 0 and the
positions seen, and bit `k` of the field says whether the position `k` before it was received. -/
theorem receiver_window_exact (ref : StreamReliability) (ss : List Nat)
    (hss : (cleared ref).AllNear ss) :
    let r := (cleared ref).arrivals ss
    (r.ref.ack : Int) = r.position % 65536 ∧
      ∀ k < 32, r.ref.ackBits.getLsbD k = true ↔ r.position - (k : Int) ∈ r.seen :=
  have h := (Exact.cleared ref).arrivals hss
  ⟨h.ack, h.bits⟩

open ReceiverState in
/-- A packet from before the start, a jump of 31, late packets on both sides of the window and a
duplicate. -/
theorem receiver_window_exact_late :
    (cleared .zeroed).AllNear [65535, 31, 0, 65534, 40, 31] ∧
      (let r := (cleared .zeroed).arrivals [65535, 31, 0, 65534, 40, 31]
      (r.ref.ack : Int) = r.position % 65536 ∧
        ∀ k < 32, r.ref.ackBits.getLsbD k = true ↔ r.position - (k : Int) ∈ r.seen) :=
  have h : (cleared .zeroed).AllNear [65535, 31, 0, 65534, 40, 31] := by decide +kernel
  ⟨h, receiver_window_exact .zeroed _ h⟩

end UniversalNetwork
