import UniversalNetwork.Lib.Machine
import UniversalNetwork.Lib.Ring
import UniversalNetwork.Stream
import Mathlib.Tactic.Linarith
import Mathlib.Data.NNRat.Defs

/-!
# The ring of sent packets

`RingAt n a f ref`: after `n` sends the packet of position `j` is in slot `j % 35` (the last 35 of
them), the sent window starts at position `f`, the acked window at `a ≤ f`, and both end at `n`,
less than a revolution later. A send (`RingAt.packetSent`), an ack (`RingAt.sameRing`, as the scan
only touches the marks) and an update (`RingAt.update`) keep it and never fault.

`processAckLoop_spec` says which slots a scan marks: the slot `k` behind the pivot, for each of the
first 31 bits `k` of the field.

`ring_invariant`: in every run of sends, received packets and updates no assert fails, no index
leaves the ring, and the cursors, the windows, the ages and the sequences are as `RingShape` says.
-/

namespace UniversalNetwork

open Lib

/-! ## Cursors -/

theorem increase_slot (j : Nat) : increase (j % 35) kStreamReliabilityBufferCapacity =
    (j + 1) % 35 := by
  unfold increase kStreamReliabilityBufferCapacity
  omega

theorem increase_sequence (j : Nat) : increase (j % 65535) kStreamReliabilityMaxSequence =
    (j + 1) % 65535 := by
  unfold increase kStreamReliabilityMaxSequence
  omega

/-- One slot back is 34 slots on. -/
theorem decrease_one {p : Nat} (h : p < 35) :
    decrease p 1 kStreamReliabilityBufferCapacity = (p + 34) % 35 := by
  unfold decrease kStreamReliabilityBufferCapacity
  split <;> omega

theorem get?_of_lt (ref : StreamReliability) {i : Nat} (h : i < 35) :
    ∃ p, ref.packets[i]? = some p :=
  ⟨_, Vector.getElem?_eq_getElem h⟩

theorem lt_of_get? {ref : StreamReliability} {i : Nat} {p : StreamPacketMetadata}
    (h : ref.packets[i]? = some p) : i < 35 := by
  obtain ⟨hi, -⟩ := Vector.getElem?_eq_some_iff.1 h
  exact hi

/-- The age in slot `i`. -/
def slotTime (ref : StreamReliability) (i : Nat) : ℚ := (ref.packets[i]?.map (·.time)).getD 0

/-- The size in slot `i`. -/
def slotSize (ref : StreamReliability) (i : Nat) : Nat := (ref.packets[i]?.map (·.size)).getD 0

/-- The mark of slot `i`. -/
def slotAcked (ref : StreamReliability) (i : Nat) : Bool :=
  (ref.packets[i]?.map (·.acked)).getD false

/-! ## The invariant -/

/-- The ring after `n` sends, the acked window from position `a` and the sent window from `f`. -/
structure RingAt (n a f : Nat) (ref : StreamReliability) : Prop where
  back : ref.back = n % 35
  sequence : ref.sequence = n % 65535
  frontAcked : ref.frontAcked = a % 35
  frontSent : ref.frontSent = f % 35
  acked_le : a ≤ f
  sent_le : f ≤ n
  room : n ≤ a + 34
  slot : ∀ j < n, n ≤ j + 35 → ∃ p, ref.packets[j % 35]? = some p ∧ p.sequence = j % 65535
  age : ∀ (i j : Nat) (p q : StreamPacketMetadata), i ≤ j → j < n → n ≤ i + 35 →
    ref.packets[i % 35]? = some p → ref.packets[j % 35]? = some q → q.time ≤ p.time
  nonneg : ∀ (i : Nat) (p : StreamPacketMetadata), ref.packets[i]? = some p → 0 ≤ p.time

theorem ringAt_clear : RingAt 0 0 0 (streamReliabilityClear .zeroed) where
  back := rfl
  sequence := rfl
  frontAcked := rfl
  frontSent := rfl
  acked_le := le_refl _
  sent_le := le_refl _
  room := by omega
  slot := fun j hj => absurd hj (by omega)
  age := fun _ j _ _ _ hj => absurd hj (by omega)
  nonneg := fun i p h => by
    have hi := lt_of_get? h
    simp only [streamReliabilityClear, StreamReliability.zeroed] at h
    rw [Vector.getElem?_eq_some_iff] at h
    obtain ⟨-, rfl⟩ := h
    simp

/-! ## Sending -/

theorem discardOverwritten_eq (ref : StreamReliability) :
    discardOverwritten ref =
      { ref with
        frontAcked :=
          if ref.back = ref.frontAcked then
            increase ref.frontAcked kStreamReliabilityBufferCapacity
          else ref.frontAcked
        frontSent :=
          if ref.back = ref.frontSent then
            increase ref.frontSent kStreamReliabilityBufferCapacity
          else ref.frontSent } := by
  unfold discardOverwritten
  by_cases hA : ref.back = ref.frontAcked
  · rw [if_pos hA, if_pos hA]
    by_cases hF : ref.back = ref.frontSent
    · simp only [hF, ↓reduceIte]
    · simp only [hF, ↓reduceIte]
  · rw [if_neg hA, if_neg hA]
    by_cases hF : ref.back = ref.frontSent
    · simp only [hF, ↓reduceIte]
    · simp only [hF, ↓reduceIte]

/-- A front at position `x` after the send of position `n`: it moves on when the send runs into
it. -/
def frontAfterSend (n x : Nat) : Nat := if n + 1 = x + 35 then x + 1 else x

theorem front_after_send {n x : Nat} (hx : x ≤ n) (hr : n ≤ x + 34) :
    (if (n + 1) % 35 = x % 35 then increase (x % 35) kStreamReliabilityBufferCapacity
      else x % 35) = frontAfterSend n x % 35 := by
  unfold frontAfterSend
  rw [increase_slot]
  split <;> split <;> omega

/-- What the send of position `n` does beside the cursors. -/
structure SentAt (n size : Nat) (ref ref' : StreamReliability) : Prop where
  slot : store ref.packets (n % 35) ⟨n % 65535, 0, size, false⟩ = some ref'.packets
  ack : ref'.ack = ref.ack
  ackBits : ref'.ackBits = ref.ackBits
  totalSentPackets : ref'.totalSentPackets = (ref.totalSentPackets + 1) % 2 ^ 32
  totalAckedPackets : ref'.totalAckedPackets = ref.totalAckedPackets
  totalLostPackets : ref'.totalLostPackets = ref.totalLostPackets
  sentBytes : ref'.sentBytes = (ref.sentBytes + size) % 2 ^ 32

/-- **A send** writes the slot of position `n`, and a front it runs into moves on. -/
theorem RingAt.packetSent {n a f : Nat} {ref : StreamReliability} (h : RingAt n a f ref)
    (size : Nat) : ∃ ref', streamReliabilityPacketSent ref size = some ref' ∧
      RingAt (n + 1) (frontAfterSend n a) (frontAfterSend n f) ref' ∧ SentAt n size ref ref' := by
  obtain ⟨packets, hst⟩ : ∃ v, store ref.packets (n % 35) ⟨n % 65535, 0, size, false⟩ = some v :=
    ⟨_, store_of_lt _ (Nat.mod_lt _ (by decide)) _⟩
  have hself := store_get_self hst
  have hother : ∀ j < n, n + 1 ≤ j + 35 → packets[j % 35]? = ref.packets[j % 35]? :=
    fun j hj hr => store_get_ne hst (by omega)
  have h1 := h.acked_le
  have h2 := h.sent_le
  have h3 := h.room
  refine ⟨
    { ref with
      packets
      back := (n + 1) % 35
      sequence := (n + 1) % 65535
      totalSentPackets := (ref.totalSentPackets + 1) % 2 ^ 32
      sentBytes := (ref.sentBytes + size) % 2 ^ 32
      frontAcked := frontAfterSend n a % 35
      frontSent := frontAfterSend n f % 35 }, ?_, ?_, ⟨hst, rfl, rfl, rfl, rfl, rfl, rfl⟩⟩
  · unfold streamReliabilityPacketSent
    simp only [discardOverwritten_eq, h.back, h.sequence, h.frontAcked, h.frontSent, hst,
      increase_slot n, increase_sequence, front_after_send (by omega : a ≤ n) h3,
      front_after_send h2 (by omega), Option.bind_eq_bind, Option.bind_some]
    rw [if_pos]
    unfold frontAfterSend
    constructor <;> split <;> omega
  · refine ⟨rfl, rfl, rfl, rfl, ?_, ?_, ?_, fun j hj hr => ?_, ?_, ?_⟩
    · unfold frontAfterSend
      split <;> split <;> omega
    · unfold frontAfterSend
      split <;> omega
    · unfold frontAfterSend
      split <;> omega
    · rcases Nat.lt_or_ge j n with hlt | hge
      · show ∃ p, packets[j % 35]? = some p ∧ _
        rw [hother j hlt hr]
        exact h.slot j hlt (by omega)
      · obtain rfl : j = n := by omega
        exact ⟨_, hself, rfl⟩
    · intro i j p q hij hj hr hp hq
      show q.time ≤ p.time
      have hp0 : 0 ≤ p.time := by
        rcases Nat.lt_or_ge i n with hlt | hge
        · rw [hother i hlt hr] at hp
          exact h.nonneg _ _ hp
        · obtain rfl : i = n := by omega
          rw [hself] at hp
          cases hp
          exact le_refl _
      rcases Nat.lt_or_ge j n with hlt | hge
      · rw [hother i (by omega) hr] at hp
        rw [hother j hlt (by omega)] at hq
        exact h.age i j p q hij hlt (by omega) hp hq
      · obtain rfl : j = n := by omega
        rw [hself] at hq
        cases hq
        exact hp0
    · intro i p hp
      rcases eq_or_ne i (n % 35) with rfl | hne
      · rw [hself] at hp
        cases hp
        exact le_refl _
      · rw [show packets[i]? = ref.packets[i]? from store_get_ne hst hne] at hp
        exact h.nonneg i p hp

/-- A send keeps the ages of the packets before it, and its own is 0. -/
theorem SentAt.slotTime_eq {n size : Nat} {ref ref' : StreamReliability} (h : SentAt n size ref ref') :
    slotTime ref' (n % 35) = 0 ∧
    ∀ j, j < n → n < j + 35 → slotTime ref' (j % 35) = slotTime ref (j % 35) := by
  refine ⟨by simp [slotTime, store_get_self h.slot], fun j hj hr => ?_⟩
  unfold slotTime
  rw [store_get_ne h.slot (by omega)]

theorem SentAt.slotSize_eq {n size : Nat} {ref ref' : StreamReliability} (h : SentAt n size ref ref') :
    slotSize ref' (n % 35) = size ∧
    ∀ j, j < n → n < j + 35 → slotSize ref' (j % 35) = slotSize ref (j % 35) := by
  refine ⟨by simp [slotSize, store_get_self h.slot], fun j hj hr => ?_⟩
  unfold slotSize
  rw [store_get_ne h.slot (by omega)]

theorem SentAt.slotAcked_eq {n size : Nat} {ref ref' : StreamReliability}
    (h : SentAt n size ref ref') (i : Nat) :
    slotAcked ref' i = if i = n % 35 then false else slotAcked ref i := by
  unfold slotAcked
  split
  · rename_i hi
    rw [hi, store_get_self h.slot]
    rfl
  · rename_i hi
    rw [store_get_ne h.slot hi]

/-! ## The ack scan -/

/-- `ref'` differs from `ref` at most in marks and statistics of what was received or acked: the
cursors, what is counted as sent or lost and every slot's sequence, age and size are the same. -/
structure SameRing (ref ref' : StreamReliability) : Prop where
  back : ref'.back = ref.back
  sequence : ref'.sequence = ref.sequence
  frontAcked : ref'.frontAcked = ref.frontAcked
  frontSent : ref'.frontSent = ref.frontSent
  totalSentPackets : ref'.totalSentPackets = ref.totalSentPackets
  totalLostPackets : ref'.totalLostPackets = ref.totalLostPackets
  sentBytes : ref'.sentBytes = ref.sentBytes
  slot : ∀ i : Nat, ref'.packets[i]?.map (fun p => (p.sequence, p.time, p.size)) =
    ref.packets[i]?.map (fun p => (p.sequence, p.time, p.size))

theorem SameRing.refl (ref : StreamReliability) : SameRing ref ref :=
  ⟨rfl, rfl, rfl, rfl, rfl, rfl, rfl, fun _ => rfl⟩

theorem SameRing.trans {r₁ r₂ r₃ : StreamReliability} (h : SameRing r₁ r₂) (h' : SameRing r₂ r₃) :
    SameRing r₁ r₃ :=
  ⟨h'.back.trans h.back, h'.sequence.trans h.sequence, h'.frontAcked.trans h.frontAcked,
    h'.frontSent.trans h.frontSent, h'.totalSentPackets.trans h.totalSentPackets,
    h'.totalLostPackets.trans h.totalLostPackets, h'.sentBytes.trans h.sentBytes,
    fun i => (h'.slot i).trans (h.slot i)⟩

theorem SameRing.get {ref ref' : StreamReliability} (h : SameRing ref ref') {i : Nat}
    {p' : StreamPacketMetadata} (hp : ref'.packets[i]? = some p') :
    ∃ p, ref.packets[i]? = some p ∧ p'.sequence = p.sequence ∧ p'.time = p.time := by
  have hs := h.slot i
  rw [hp] at hs
  obtain ⟨p, hp, he⟩ := Option.map_eq_some_iff.1 hs.symm
  simp only [Prod.mk.injEq] at he
  exact ⟨p, hp, he.1.symm, he.2.1.symm⟩

theorem SameRing.slotTime {ref ref' : StreamReliability} (h : SameRing ref ref') (i : Nat) :
    slotTime ref' i = slotTime ref i := by
  have := congrArg (Option.map (·.2.1)) (h.slot i)
  simp only [Option.map_map] at this
  exact congrArg (Option.getD · 0) this

theorem SameRing.slotSize {ref ref' : StreamReliability} (h : SameRing ref ref') (i : Nat) :
    slotSize ref' i = slotSize ref i := by
  have := congrArg (Option.map (·.2.2)) (h.slot i)
  simp only [Option.map_map] at this
  exact congrArg (Option.getD · 0) this

theorem RingAt.sameRing {n a f : Nat} {ref ref' : StreamReliability} (h : RingAt n a f ref)
    (hs : SameRing ref ref') : RingAt n a f ref' where
  back := hs.back.trans h.back
  sequence := hs.sequence.trans h.sequence
  frontAcked := hs.frontAcked.trans h.frontAcked
  frontSent := hs.frontSent.trans h.frontSent
  acked_le := h.acked_le
  sent_le := h.sent_le
  room := h.room
  slot := fun j hj hr => by
    obtain ⟨p', hp'⟩ := get?_of_lt ref' (Nat.mod_lt j (by decide : 0 < 35))
    obtain ⟨p, hp, hseq, -⟩ := hs.get hp'
    obtain ⟨q, hq, hqs⟩ := h.slot j hj hr
    rw [hp] at hq
    cases hq
    exact ⟨p', hp', hseq.trans hqs⟩
  age := fun i j p' q' hij hj hr hp' hq' => by
    obtain ⟨p, hp, -, hpt⟩ := hs.get hp'
    obtain ⟨q, hq, -, hqt⟩ := hs.get hq'
    rw [hpt, hqt]
    exact h.age i j p q hij hj hr hp hq
  nonneg := fun i p' hp' => by
    obtain ⟨p, hp, -, hpt⟩ := hs.get hp'
    rw [hpt]
    exact h.nonneg i p hp

/-- The packet in slot `i` is marked as acked. -/
def AckedAt (ref : StreamReliability) (i : Nat) : Prop :=
  ∃ p, ref.packets[i]? = some p ∧ p.acked = true

theorem slotAcked_iff {ref : StreamReliability} {i : Nat} :
    slotAcked ref i = true ↔ AckedAt ref i := by
  unfold slotAcked AckedAt
  cases ref.packets[i]? <;> simp

/-- The slots with a mark in `ref'` and none in `ref`. -/
def newlyAcked (ref ref' : StreamReliability) : List Nat :=
  (List.range kStreamReliabilityBufferCapacity).filter fun i =>
    slotAcked ref' i && !slotAcked ref i

theorem mem_newlyAcked {ref ref' : StreamReliability} {i : Nat} :
    i ∈ newlyAcked ref ref' ↔ i < 35 ∧ slotAcked ref' i = true ∧ slotAcked ref i = false := by
  simp [newlyAcked, kStreamReliabilityBufferCapacity]

/-- `ref'` is `ref` after a scan: marks are only set, and each one set is counted. -/
structure Scanned (ref ref' : StreamReliability) : Prop extends SameRing ref ref' where
  ack : ref'.ack = ref.ack
  ackBits : ref'.ackBits = ref.ackBits
  marks : ∀ i, slotAcked ref i = true → slotAcked ref' i = true
  totalAckedPackets : ∀ c, ref.totalAckedPackets = c % 2 ^ 32 →
    ref'.totalAckedPackets = (c + (newlyAcked ref ref').length) % 2 ^ 32

theorem Scanned.refl (ref : StreamReliability) : Scanned ref ref where
  toSameRing := .refl ref
  ack := rfl
  ackBits := rfl
  marks := fun _ h => h
  totalAckedPackets := fun c hc => by simp [newlyAcked, hc]

theorem newlyAcked_length_add {r₁ r₂ r₃ : StreamReliability}
    (h : ∀ i, slotAcked r₁ i = true → slotAcked r₂ i = true)
    (h' : ∀ i, slotAcked r₂ i = true → slotAcked r₃ i = true) :
    (newlyAcked r₁ r₃).length = (newlyAcked r₁ r₂).length + (newlyAcked r₂ r₃).length := by
  unfold newlyAcked
  induction List.range kStreamReliabilityBufferCapacity with
  | nil => rfl
  | cons i is ih =>
    have h1 := h i
    have h2 := h' i
    simp only [List.filter_cons]
    cases hm₁ : slotAcked r₁ i <;> cases hm₂ : slotAcked r₂ i <;> cases hm₃ : slotAcked r₃ i <;>
      simp_all <;> omega

/-- One mark more. -/
theorem newlyAcked_mark {ref ref' : StreamReliability} {pivot : Nat} (hp : pivot < 35)
    (hold : slotAcked ref pivot = false)
    (hmark : ∀ i, slotAcked ref' i = true ↔ slotAcked ref i = true ∨ i = pivot) :
    (newlyAcked ref ref').length = 1 := by
  have hnew : newlyAcked ref ref' =
      (List.range kStreamReliabilityBufferCapacity).filter (· == pivot) := by
    refine List.filter_congr fun i _ => ?_
    rw [Bool.eq_iff_iff, Bool.and_eq_true, Bool.not_eq_true', beq_iff_eq, hmark i]
    constructor
    · rintro ⟨hi | hi, hi'⟩
      · rw [hi] at hi'
        cases hi'
      · exact hi
    · rintro rfl
      exact ⟨.inr rfl, hold⟩
  rw [hnew, ← List.countP_eq_length_filter]
  exact (List.Nodup.count List.nodup_range).trans (if_pos (List.mem_range.2 hp))

theorem Scanned.trans {r₁ r₂ r₃ : StreamReliability} (h : Scanned r₁ r₂) (h' : Scanned r₂ r₃) :
    Scanned r₁ r₃ where
  toSameRing := h.toSameRing.trans h'.toSameRing
  ack := h'.ack.trans h.ack
  ackBits := h'.ackBits.trans h.ackBits
  marks := fun i hi => h'.marks i (h.marks i hi)
  totalAckedPackets := fun c hc => by
    rw [h'.totalAckedPackets _ (h.totalAckedPackets c hc), newlyAcked_length_add h.marks h'.marks,
      Nat.add_assoc]

theorem ackSlot_spec (ref : StreamReliability) {pivot : Nat} (hp : pivot < 35)
    (ackBits : BitVec 32) : ∃ ref', ackSlot ref pivot ackBits = some ref' ∧ Scanned ref ref' ∧
      ∀ i, AckedAt ref' i ↔ AckedAt ref i ∨ i = pivot ∧ ackBits.getLsbD 0 = true := by
  obtain ⟨packet, hget⟩ := get?_of_lt ref hp
  unfold ackSlot
  rw [hget]
  simp only [Option.bind_eq_bind, Option.bind_some]
  by_cases hb : (!packet.acked && ackBits.getLsbD 0) = true
  · obtain ⟨packets, hst⟩ : ∃ v, store ref.packets pivot { packet with acked := true } = some v :=
      ⟨_, store_of_lt _ hp _⟩
    rw [if_pos hb, hst]
    simp only [Bool.and_eq_true, Bool.not_eq_true'] at hb
    have hmark : ∀ i, ((packets[i]?.map (·.acked)).getD false = true ↔
        slotAcked ref i = true ∨ i = pivot) := by
      intro i
      rcases eq_or_ne i pivot with rfl | hne
      · simp [store_get_self hst]
      · simp [store_get_ne hst hne, hne, slotAcked]
    refine ⟨_, rfl, ⟨⟨rfl, rfl, rfl, rfl, rfl, rfl, rfl, fun i => ?_⟩, rfl, rfl,
      fun i hi => (hmark i).2 (.inl hi), fun c hc => ?_⟩, fun i => ?_⟩
    · rcases eq_or_ne i pivot with rfl | hne
      · rw [store_get_self hst, hget]
        rfl
      · rw [store_get_ne hst hne]
    · have hold : slotAcked ref pivot = false := by simp [slotAcked, hget, hb.1]
      have hone := @newlyAcked_mark ref
        { ref with
          packets
          totalAckedPackets := (ref.totalAckedPackets + 1) % 2 ^ 32
          rtt := ref.rtt + (packet.time - ref.rtt) * (1 / 10) } pivot hp hold hmark
      rw [hone, hc]
      exact Nat.mod_add_mod c (2 ^ 32) 1
    · rw [← slotAcked_iff, ← slotAcked_iff]
      refine (hmark i).trans ?_
      simp [hb.2]
  · rw [if_neg hb]
    refine ⟨ref, rfl, .refl ref, fun i => ⟨.inl, fun h => ?_⟩⟩
    rcases h with h | ⟨rfl, h0⟩
    · exact h
    · refine ⟨packet, hget, ?_⟩
      simpa [h0] using hb

/-- **What a scan of `n` slots marks**: the slot `k` behind the pivot when bit `k` is set. -/
theorem processAckLoop_spec (n : Nat) (ref : StreamReliability) {pivot : Nat} (hp : pivot < 35)
    (ackBits : BitVec 32) : ∃ ref', processAckLoop n ref pivot ackBits = some ref' ∧
      Scanned ref ref' ∧ ∀ i, AckedAt ref' i ↔
        AckedAt ref i ∨ ∃ k < n, i = (pivot + 34 * k) % 35 ∧ ackBits.getLsbD k = true := by
  induction n generalizing ref pivot ackBits with
  | zero => exact ⟨ref, rfl, .refl ref, fun i => by simp⟩
  | succ n ih =>
    obtain ⟨r₁, h₁, hs₁, hk₁⟩ := ackSlot_spec ref hp ackBits
    obtain ⟨r₂, h₂, hs₂, hk₂⟩ :=
      ih r₁ (Nat.mod_lt (pivot + 34) (by decide : 0 < 35)) (ackBits >>> 1)
    refine ⟨r₂, ?_, hs₁.trans hs₂, fun i => ?_⟩
    · unfold processAckLoop
      rw [h₁, decrease_one hp]
      exact h₂
    · rw [hk₂, hk₁, or_assoc]
      refine or_congr_right ⟨fun h => ?_, fun h => ?_⟩
      · rcases h with ⟨rfl, h0⟩ | ⟨k, hk, rfl, hb⟩
        · exact ⟨0, by omega, by omega, h0⟩
        · refine ⟨k + 1, by omega, by omega, ?_⟩
          rwa [BitVec.getLsbD_ushiftRight, Nat.add_comm] at hb
      · obtain ⟨k, hk, rfl, hb⟩ := h
        rcases k with _ | k
        · exact .inl ⟨by omega, hb⟩
        · refine .inr ⟨k, by omega, by omega, ?_⟩
          rwa [BitVec.getLsbD_ushiftRight, Nat.add_comm]

/-- Whatever the ack, it marks slots of its scan or does nothing. -/
theorem processAck_scanned {ref ref' : StreamReliability} {ack : Nat} {ackBits : BitVec 32}
    (h : streamReliabilityProcessAck ref ack ackBits = some ref') :
    Scanned ref ref' ∧ ∀ i ∈ newlyAcked ref ref', ∃ first, scanStart ref ack = some first ∧
      ∃ k < 31, i = (first + 34 * k) % 35 ∧ ackBits.getLsbD k = true := by
  rw [streamReliabilityProcessAck] at h
  split at h
  · cases h
    refine ⟨.refl ref, fun i hi => ?_⟩
    obtain ⟨-, hnew, hold⟩ := mem_newlyAcked.1 hi
    rw [hnew] at hold
    cases hold
  · split at h
    · rename_i pivot hpivot hlt
      obtain ⟨r, hr, hscan, hmarks⟩ := processAckLoop_spec 31 ref hlt ackBits
      rw [h] at hr
      cases hr
      refine ⟨hscan, fun i hi => ?_⟩
      obtain ⟨-, hnew, hold⟩ := mem_newlyAcked.1 hi
      rcases (hmarks i).1 (slotAcked_iff.1 hnew) with hmark | hmark
      · rw [slotAcked_iff.2 hmark] at hold
        cases hold
      · exact ⟨pivot, hpivot, hmark⟩
    · cases h

/-- An ack at most the local sequence starts a scan at its own slot when the window is not empty and
it is less than 35 behind. -/
theorem RingAt.scanStart_eq {n a f : Nat} {ref : StreamReliability} (h : RingAt n a f ref)
    {ack : Nat} (hack : ack ≤ ref.sequence) :
    scanStart ref ack =
      if ref.frontSent ≠ ref.back ∧ ack < ref.sequence ∧ ref.sequence < ack + 35 then
        some ((n + 35 - (ref.sequence - ack)) % 35)
      else none := by
  have hback := h.back
  have hseq : ref.sequence < 65535 := by
    rw [h.sequence]
    omega
  unfold scanStart
  have hcount : toInt32 (ackCount ref ack) < kStreamReliabilityBufferCapacity ↔
      ack < ref.sequence ∧ ref.sequence < ack + 35 := by
    unfold toInt32 ackCount kStreamReliabilityBufferCapacity kStreamReliabilityMaxSequence
    split <;> split <;> omega
  by_cases hc : ref.frontSent ≠ ref.back ∧ ack < ref.sequence ∧ ref.sequence < ack + 35
  · rw [if_pos hc, if_pos ⟨hc.1, hcount.2 hc.2⟩]
    have hpivot : ackCount ref ack = ref.sequence - ack := if_pos hc.2.1
    congr 1
    unfold decrease kStreamReliabilityBufferCapacity
    rw [hpivot]
    split <;> omega
  · rw [if_neg hc, if_neg fun hs => hc ⟨hs.1, hcount.1 hs.2⟩]

/-- **What an ack at most the local sequence does**: nothing when the window is empty or the ack
is 35 or more behind, else it scans from the slot of the ack. -/
theorem RingAt.processAck {n a f : Nat} {ref : StreamReliability} (h : RingAt n a f ref)
    {ack : Nat} (hack : ack ≤ ref.sequence) (ackBits : BitVec 32) :
    ∃ ref', streamReliabilityProcessAck ref ack ackBits = some ref' ∧ Scanned ref ref' ∧
      ∀ i, AckedAt ref' i ↔ AckedAt ref i ∨
        (ref.frontSent ≠ ref.back ∧ ack < ref.sequence ∧ ref.sequence < ack + 35) ∧
          ∃ k < 31, i = (n + 35 - (ref.sequence - ack) + 34 * k) % 35 ∧
            ackBits.getLsbD k = true := by
  rw [streamReliabilityProcessAck, h.scanStart_eq hack]
  by_cases hc : ref.frontSent ≠ ref.back ∧ ack < ref.sequence ∧ ref.sequence < ack + 35
  · have hlt : (n + 35 - (ref.sequence - ack)) % 35 < 35 := Nat.mod_lt _ (by decide)
    obtain ⟨r, h₁, h₂, h₃⟩ := processAckLoop_spec 31 ref hlt ackBits
    rw [if_pos hc]
    dsimp only
    rw [if_pos (show _ < kStreamReliabilityBufferCapacity from hlt)]
    refine ⟨r, h₁, h₂, fun i => (h₃ i).trans (or_congr_right ?_)⟩
    simp only [hc, ne_eq, not_false_eq_true, and_self, true_and, Nat.mod_add_mod]
  · rw [if_neg hc]
    exact ⟨ref, rfl, .refl ref, fun i => by simp only [hc, false_and, or_false]⟩

/-! ## The update -/

/-- The packets `dt` older. -/
def StreamReliability.aged (ref : StreamReliability) (dt : ℚ) : StreamReliability :=
  { ref with packets := ref.packets.map fun p => { p with time := p.time + dt } }

@[simp] theorem slotAcked_aged (ref : StreamReliability) (dt : ℚ) (i : Nat) :
    slotAcked (ref.aged dt) i = slotAcked ref i := by
  simp only [slotAcked, StreamReliability.aged, Vector.getElem?_map, Option.map_map]
  rfl

@[simp] theorem slotSize_aged (ref : StreamReliability) (dt : ℚ) (i : Nat) :
    slotSize (ref.aged dt) i = slotSize ref i := by
  simp only [slotSize, StreamReliability.aged, Vector.getElem?_map, Option.map_map]
  rfl

theorem slotTime_aged (ref : StreamReliability) (dt : ℚ) {i : Nat} (h : i < 35) :
    slotTime (ref.aged dt) i = slotTime ref i + dt := by
  obtain ⟨p, hp⟩ := get?_of_lt ref h
  simp [slotTime, StreamReliability.aged, hp]

theorem RingAt.aged {n a f : Nat} {ref : StreamReliability} (h : RingAt n a f ref) {dt : ℚ}
    (hdt : 0 ≤ dt) : RingAt n a f (ref.aged dt) := by
  have hget : ∀ (i : Nat) (p' : StreamPacketMetadata),
      (ref.packets.map fun p => { p with time := p.time + dt })[i]? = some p' →
      ∃ p, ref.packets[i]? = some p ∧ p' = { p with time := p.time + dt } := by
    intro i p' hp'
    rw [Vector.getElem?_map, Option.map_eq_some_iff] at hp'
    obtain ⟨p, hp, rfl⟩ := hp'
    exact ⟨p, hp, rfl⟩
  refine ⟨h.back, h.sequence, h.frontAcked, h.frontSent, h.acked_le, h.sent_le, h.room,
    fun j hj hr => ?_, fun i j p' q' hij hj hr hp' hq' => ?_, fun i p' hp' => ?_⟩
  · obtain ⟨p, hp, hs⟩ := h.slot j hj hr
    refine ⟨{ p with time := p.time + dt }, ?_, hs⟩
    unfold StreamReliability.aged
    rw [Vector.getElem?_map, hp]
    rfl
  · obtain ⟨p, hp, rfl⟩ := hget _ _ hp'
    obtain ⟨q, hq, rfl⟩ := hget _ _ hq'
    have := h.age i j p q hij hj hr hp hq
    show q.time + dt ≤ p.time + dt
    linarith
  · obtain ⟨p, hp, rfl⟩ := hget _ _ hp'
    have := h.nonneg i p hp
    show 0 ≤ p.time + dt
    linarith

/-- The packet at position `x`, when there is one before `n`, is at most `limit` old. -/
def YoungAt (limit : ℚ) (n x : Nat) (ref : StreamReliability) : Prop :=
  x = n ∨ slotTime ref (x % 35) ≤ limit

/-- The bytes of the packets of positions `lo` up to `hi`. -/
def bytesBetween (ref : StreamReliability) (lo hi : Nat) : Nat :=
  ((List.range' lo (hi - lo)).map fun j => slotSize ref (j % 35)).sum

/-- The positions from `lo` up to `hi` whose packets are not marked. -/
def unmarkedBetween (ref : StreamReliability) (lo hi : Nat) : List Nat :=
  (List.range' lo (hi - lo)).filter fun j => !slotAcked ref (j % 35)

theorem range'_split {lo mid hi : Nat} (h : lo ≤ mid) (h' : mid ≤ hi) :
    List.range' lo (hi - lo) = List.range' lo (mid - lo) ++ List.range' mid (hi - mid) := by
  rw [show hi - lo = (mid - lo) + (hi - mid) by omega, ← List.range'_append]
  congr 2
  omega

theorem bytesBetween_split (ref : StreamReliability) {lo mid hi : Nat} (h : lo ≤ mid)
    (h' : mid ≤ hi) :
    bytesBetween ref lo hi = bytesBetween ref lo mid + bytesBetween ref mid hi := by
  simp [bytesBetween, range'_split h h']

theorem unmarkedBetween_split (ref : StreamReliability) {lo mid hi : Nat} (h : lo ≤ mid)
    (h' : mid ≤ hi) :
    unmarkedBetween ref lo hi = unmarkedBetween ref lo mid ++ unmarkedBetween ref mid hi := by
  simp [unmarkedBetween, range'_split h h']

/-- The sent front has moved on from position `f` to `f'`: the packets between were taken out of the
bytes in flight, and those without a mark counted as lost. -/
structure SentFrontMoved (f f' : Nat) (ref ref' : StreamReliability) : Prop where
  le : f ≤ f'
  packets : ref'.packets = ref.packets
  totalSentPackets : ref'.totalSentPackets = ref.totalSentPackets
  totalAckedPackets : ref'.totalAckedPackets = ref.totalAckedPackets
  totalLostPackets : ∀ c, ref.totalLostPackets = c % 2 ^ 32 →
    ref'.totalLostPackets = (c + (unmarkedBetween ref f f').length) % 2 ^ 32
  sentBytes : ∀ b, ref.sentBytes = bytesBetween ref f f' + b → ref.sentBytes < 2 ^ 32 →
    ref'.sentBytes = b

theorem SentFrontMoved.refl (f : Nat) (ref : StreamReliability) : SentFrontMoved f f ref ref where
  le := le_refl f
  packets := rfl
  totalSentPackets := rfl
  totalAckedPackets := rfl
  totalLostPackets := fun c hc => by simp [unmarkedBetween, hc]
  sentBytes := fun b hb _ => by simpa [bytesBetween] using hb

/-- One round of the loop, and then the others. -/
theorem SentFrontMoved.head {f f' : Nat} {ref ref' : StreamReliability} {packet : StreamPacketMetadata}
    (hp : ref.packets[f % 35]? = some packet)
    (h : SentFrontMoved (f + 1) f'
      { ref with
        sentBytes := (ref.sentBytes + 2 ^ 32 - packet.size % 2 ^ 32) % 2 ^ 32
        totalLostPackets :=
          if packet.acked then ref.totalLostPackets else (ref.totalLostPackets + 1) % 2 ^ 32
        frontSent := (f + 1) % 35 } ref') : SentFrontMoved f f' ref ref' := by
  have hle := h.le
  have hacked : slotAcked ref (f % 35) = packet.acked := by simp [slotAcked, hp]
  have hsize : slotSize ref (f % 35) = packet.size := by simp [slotSize, hp]
  have hone : f + 1 - f = 1 := by omega
  have hunmarked : unmarkedBetween ref f (f + 1) = if packet.acked then [] else [f] := by
    cases hm : packet.acked <;> simp [unmarkedBetween, hone, hacked, hm]
  have hbytes : bytesBetween ref f (f + 1) = packet.size := by
    simp [bytesBetween, hone, hsize]
  refine ⟨by omega, h.packets, h.totalSentPackets, h.totalAckedPackets, fun c hc => ?_,
    fun b hb hlt => ?_⟩
  · have hrest := h.totalLostPackets (c + (unmarkedBetween ref f (f + 1)).length) (by
      rw [hunmarked]
      dsimp only
      cases packet.acked
      · simp only [hc, Bool.false_eq_true, if_false, List.length_singleton]
        omega
      · simpa using hc)
    rw [hrest, unmarkedBetween_split ref (Nat.le_add_right f 1) hle, List.length_append, Nat.add_assoc]
    rfl
  · rw [bytesBetween_split ref (Nat.le_add_right f 1) hle, hbytes] at hb
    refine h.sentBytes b ?_ ?_
    · show (ref.sentBytes + 2 ^ 32 - packet.size % 2 ^ 32) % 2 ^ 32 = bytesBetween ref (f + 1) f' + b
      rw [Nat.mod_eq_of_lt (by omega : packet.size < 2 ^ 32)]
      omega
    · exact Nat.mod_lt _ (by decide)

/-- The sent front moves on to a young packet, or to the end. -/
theorem sentFrontLoop_spec {n a : Nat} (fuel : Nat) {f : Nat} {ref : StreamReliability}
    (h : RingAt n a f ref) (hf : n < f + fuel) :
    ∃ f' ref', sentFrontLoop fuel ref = some ref' ∧ RingAt n a f' ref' ∧
      SentFrontMoved f f' ref ref' ∧
      YoungAt (kStreamReliabilityMaxRtt + rttEpsilon) n f' ref' := by
  induction fuel generalizing f ref with
  | zero =>
    have := h.sent_le
    omega
  | succ fuel ih =>
    have h1 := h.acked_le
    have h2 := h.sent_le
    have h3 := h.room
    unfold sentFrontLoop
    by_cases he : ref.frontSent = ref.back
    · rw [if_pos he]
      rw [h.frontSent, h.back] at he
      have hfn : f = n := (cursor_eq_iff h2 (by omega)).1 he
      exact ⟨f, ref, rfl, h, .refl f ref, .inl hfn⟩
    · rw [if_neg he]
      rw [h.frontSent, h.back] at he
      have hfn : f ≠ n := fun hfn => he (hfn ▸ rfl)
      obtain ⟨p, hp, -⟩ := h.slot f (by omega) (by omega)
      simp only [h.frontSent, hp, increase_slot, Option.bind_eq_bind, Option.bind_some]
      split
      · obtain ⟨f', ref', hloop, hring, hmoved, hyoung⟩ := @ih (f + 1)
          { ref with
            sentBytes := (ref.sentBytes + 2 ^ 32 - p.size % 2 ^ 32) % 2 ^ 32
            totalLostPackets :=
              if p.acked then ref.totalLostPackets else (ref.totalLostPackets + 1) % 2 ^ 32
            frontSent := (f + 1) % 35 }
          ⟨h.back, h.sequence, h.frontAcked, rfl, by omega, by omega, h3, h.slot, h.age, h.nonneg⟩
          (by omega)
        exact ⟨f', ref', hloop, hring, hmoved.head hp, hyoung⟩
      · rename_i ht
        exact ⟨f, ref, rfl, h, .refl f ref, .inr (by simpa [slotTime, hp] using ht)⟩

/-- The acked front stops before a young packet: the threshold it moves on at is larger. -/
theorem ackedFrontLoop_spec {n f : Nat} (fuel : Nat) {a : Nat} {ref : StreamReliability}
    (h : RingAt n a f ref) (hyoung : YoungAt (kStreamReliabilityMaxRtt + rttEpsilon) n f ref)
    (hf : n < a + fuel) :
    ∃ a', ackedFrontLoop fuel ref = some { ref with frontAcked := a' % 35 } ∧
      RingAt n a' f { ref with frontAcked := a' % 35 } ∧ a ≤ a' ∧
      YoungAt (kStreamReliabilityMaxRtt * 2 - rttEpsilon) n a' ref := by
  induction fuel generalizing a ref with
  | zero =>
    have := h.acked_le
    have := h.sent_le
    omega
  | succ fuel ih =>
    have h1 := h.acked_le
    have h2 := h.sent_le
    have h3 := h.room
    have hsame : { ref with frontAcked := a % 35 } = ref := by rw [← h.frontAcked]
    unfold ackedFrontLoop
    by_cases he : ref.frontAcked = ref.back
    · rw [if_pos he]
      rw [h.frontAcked, h.back] at he
      have han : a = n := (cursor_eq_iff (by omega) (by omega)).1 he
      exact ⟨a, by rw [hsame], hsame.symm ▸ h, le_refl a, .inl han⟩
    · rw [if_neg he]
      rw [h.frontAcked, h.back] at he
      have han : a ≠ n := fun han => he (han ▸ rfl)
      obtain ⟨p, hp, -⟩ := h.slot a (by omega) (by omega)
      simp only [h.frontAcked, hp, increase_slot, Option.bind_eq_bind, Option.bind_some]
      split
      · rename_i ht
        have haf : a ≠ f := by
          rintro rfl
          obtain rfl | hlimit := hyoung
          · exact han rfl
          · simp only [slotTime, hp, Option.map_some, Option.getD_some] at hlimit
            unfold kStreamReliabilityMaxRtt rttEpsilon at ht hlimit
            linarith
        obtain ⟨a', hloop, hring, hle, hyoung'⟩ := @ih (a + 1)
          { ref with frontAcked := (a + 1) % 35 }
          ⟨h.back, h.sequence, rfl, h.frontSent, by omega, h2, by omega, h.slot, h.age, h.nonneg⟩
          hyoung (by omega)
        exact ⟨a', hloop, hring, by omega, hyoung'⟩
      · rename_i ht
        exact ⟨a, by rw [hsame], hsame.symm ▸ h, le_refl a,
          .inr (by simpa [slotTime, hp] using ht)⟩

theorem ackedCountLoop_spec (fuel : Nat) {n j : Nat} {ref : StreamReliability}
    (hb : ref.back = n % 35) (hj : j ≤ n) (hr : n < j + 35) (hf : n < j + fuel) :
    ∃ ackedPackets ackedBytes,
      ackedCountLoop fuel ref (j % 35) = some { ref with ackedPackets, ackedBytes } := by
  induction fuel generalizing j ref with
  | zero => omega
  | succ fuel ih =>
    unfold ackedCountLoop
    by_cases he : j % 35 = ref.back
    · rw [if_pos he]
      exact ⟨ref.ackedPackets, ref.ackedBytes, rfl⟩
    · rw [if_neg he, increase_slot]
      obtain ⟨p, hp⟩ := get?_of_lt ref (Nat.mod_lt j (by decide : 0 < 35))
      have hjn : j ≠ n := fun hjn => he (by rw [hb, hjn])
      simp only [hp, Option.bind_eq_bind, Option.bind_some]
      split
      · exact @ih (j + 1)
          { ref with
            ackedPackets := (ref.ackedPackets + 1) % 2 ^ 32
            ackedBytes := (ref.ackedBytes + p.size) % 2 ^ 32 }
          hb (by omega) (by omega) (by omega)
      · exact ih hb (by omega) (by omega) (by omega)

/-- What an update does when the sent window is not empty: the packets get older, and the two
fronts move on from the positions `a` and `f` to `a'` and `f'`. -/
structure UpdatedAt (n a f a' f' : Nat) (dt : ℚ) (ref ref' : StreamReliability) : Prop extends
    SentFrontMoved f f' (ref.aged dt) ref' where
  nonempty : f < n
  acked_le : a ≤ a'
  sent_young : YoungAt (kStreamReliabilityMaxRtt + rttEpsilon) n f' ref'
  acked_young : YoungAt (kStreamReliabilityMaxRtt * 2 - rttEpsilon) n a' ref'

theorem UpdatedAt.slotTime_eq {n a f a' f' : Nat} {dt : ℚ} {ref ref' : StreamReliability}
    (h : UpdatedAt n a f a' f' dt ref ref') (j : Nat) :
    slotTime ref' (j % 35) = slotTime ref (j % 35) + dt := by
  rw [← slotTime_aged ref dt (Nat.mod_lt j (by decide))]
  unfold slotTime
  rw [h.packets]

theorem UpdatedAt.slotSize_eq {n a f a' f' : Nat} {dt : ℚ} {ref ref' : StreamReliability}
    (h : UpdatedAt n a f a' f' dt ref ref') (i : Nat) : slotSize ref' i = slotSize ref i := by
  rw [← slotSize_aged ref dt i]
  unfold slotSize
  rw [h.packets]

/-- **An update** ages the packets and moves the two fronts, unless the sent window is empty. -/
theorem RingAt.update {n a f : Nat} {ref : StreamReliability} (h : RingAt n a f ref) {dt : ℚ}
    (hdt : 0 ≤ dt) :
    f = n ∧ streamReliabilityUpdate ref dt = some ref ∨
    ∃ a' f' ref', streamReliabilityUpdate ref dt = some ref' ∧ RingAt n a' f' ref' ∧
      UpdatedAt n a f a' f' dt ref ref' := by
  have h1 := h.acked_le
  have h2 := h.sent_le
  have h3 := h.room
  unfold streamReliabilityUpdate
  by_cases he : ref.frontSent = ref.back
  · rw [if_pos he]
    rw [h.frontSent, h.back] at he
    exact .inl ⟨(cursor_eq_iff h2 (by omega)).1 he, rfl⟩
  · rw [if_neg he]
    rw [h.frontSent, h.back] at he
    have hfn : f ≠ n := fun hfn => he (hfn ▸ rfl)
    have hcap : kStreamReliabilityBufferCapacity = 35 := rfl
    obtain ⟨f', r₁, e₁, i₁, m₁, y₁⟩ :=
      sentFrontLoop_spec kStreamReliabilityBufferCapacity (h.aged hdt) (by omega)
    obtain ⟨a', e₂, i₂, hle, y₂⟩ :=
      ackedFrontLoop_spec kStreamReliabilityBufferCapacity i₁ y₁ (by omega)
    have h1' := i₂.acked_le
    have h2' := i₂.sent_le
    have h3' := i₂.room
    obtain ⟨ackedPackets, ackedBytes, e₃⟩ := @ackedCountLoop_spec kStreamReliabilityBufferCapacity
      n a' { r₁ with frontAcked := a' % 35, ackedPackets := 0, ackedBytes := 0 } i₂.back (by omega)
      (by omega) (by omega)
    unfold StreamReliability.aged at e₁
    refine .inr ⟨a', f', updateStats
      { r₁ with frontAcked := a' % 35, ackedPackets, ackedBytes }, ?_,
      ⟨i₂.back, i₂.sequence, i₂.frontAcked, i₂.frontSent, i₂.acked_le, i₂.sent_le, i₂.room, i₂.slot,
        i₂.age, i₂.nonneg⟩,
      ⟨⟨m₁.le, m₁.packets, m₁.totalSentPackets, m₁.totalAckedPackets, m₁.totalLostPackets,
        m₁.sentBytes⟩, by omega, hle, y₁, y₂⟩⟩
    simp only [e₁, e₂, e₃, Option.bind_eq_bind, Option.bind_some]

/-! ## Runs -/

/-- What happens to a stream's reliability state: a send of any size, any packet from the wire, an
update after any time. -/
inductive ReliabilityAction
  | packetSent (size : Nat)
  | receive (sequence ack : Nat) (ackBits : BitVec 32)
  | update (deltaTime : ℚ≥0)

def ReliabilityAction.isSent : ReliabilityAction → Bool
  | packetSent _ => true
  | _ => false

/-- One call on a stream; a received packet goes through `streamReceive` and its guard. -/
def reliabilityStep (stream : Stream) : ReliabilityAction → Option Stream
  | .packetSent size => do
    let reliability ← streamReliabilityPacketSent stream.reliability size
    some { stream with reliability }
  | .receive sequence ack ackBits => do
    let (stream, _) ← streamReceive stream sequence ack ackBits
    some stream
  | .update deltaTime => do
    let reliability ← streamReliabilityUpdate stream.reliability deltaTime
    some { stream with reliability }

theorem processSequence_sameRing (ref : StreamReliability) (sequence : Nat) :
    SameRing ref (streamReliabilityProcessSequence ref sequence) := by
  unfold streamReliabilityProcessSequence
  split
  · exact ⟨rfl, rfl, rfl, rfl, rfl, rfl, rfl, fun _ => rfl⟩
  · exact ⟨rfl, rfl, rfl, rfl, rfl, rfl, rfl, fun _ => rfl⟩

theorem packetReceived_sameRing {ref ref' : StreamReliability} {sequence ack : Nat}
    {ackBits : BitVec 32}
    (h : streamReliabilityPacketReceived ref sequence ack ackBits = some ref') :
    SameRing ref ref' := by
  obtain ⟨r, hr, h⟩ := Option.bind_eq_some_iff.1 h
  cases h
  have hscan := (processAck_scanned hr).1
  exact (processSequence_sameRing ref sequence).trans ⟨hscan.back, hscan.sequence, hscan.frontAcked,
    hscan.frontSent, hscan.totalSentPackets, hscan.totalLostPackets, hscan.sentBytes, hscan.slot⟩

theorem RingAt.packetReceived {n a f : Nat} {ref : StreamReliability} (h : RingAt n a f ref)
    (sequence : Nat) {ack : Nat} (hack : ack ≤ ref.sequence) (ackBits : BitVec 32) :
    ∃ ref', streamReliabilityPacketReceived ref sequence ack ackBits = some ref' ∧
      RingAt n a f ref' := by
  have hs := processSequence_sameRing ref sequence
  obtain ⟨r, hr, -⟩ := (h.sameRing hs).processAck (hs.sequence.symm ▸ hack) ackBits
  have hreceived : streamReliabilityPacketReceived ref sequence ack ackBits =
      some { r with totalReceivedPackets := (r.totalReceivedPackets + 1) % 2 ^ 32 } := by
    unfold streamReliabilityPacketReceived
    simp only [hr, Option.bind_eq_bind, Option.bind_some]
  exact ⟨_, hreceived, h.sameRing (packetReceived_sameRing hreceived)⟩

/-- One call keeps the ring and does not fault; only a send advances it. -/
theorem reliabilityStep_ring {n : Nat} {stream : Stream}
    (h : ∃ a f, RingAt n a f stream.reliability) (act : ReliabilityAction) :
    ∃ stream', reliabilityStep stream act = some stream' ∧
      ∃ a f, RingAt (n + if act.isSent then 1 else 0) a f stream'.reliability := by
  obtain ⟨a, f, h⟩ := h
  cases act with
  | packetSent size =>
    obtain ⟨r, hr, hi, -⟩ := h.packetSent size
    exact ⟨{ stream with reliability := r }, by simp [reliabilityStep, hr], _, _, hi⟩
  | receive sequence ack ackBits =>
    by_cases hg : ack ≤ stream.reliability.sequence
    · obtain ⟨r, hr, hi⟩ := h.packetReceived sequence hg ackBits
      exact ⟨{ stream with timeoutAccumulator := 0, reliability := r },
        by simp [reliabilityStep, streamReceive, hg, hr], a, f, hi⟩
    · exact ⟨stream, by simp [reliabilityStep, streamReceive, hg], a, f, h⟩
  | update deltaTime =>
    rcases h.update (NNRat.coe_nonneg deltaTime) with ⟨-, hr⟩ | ⟨a', f', r, hr, hi, -⟩
    · exact ⟨stream, by simp [reliabilityStep, hr], a, f, h⟩
    · exact ⟨{ stream with reliability := r }, by simp [reliabilityStep, hr], a', f', hi⟩

theorem reliability_run_ring (as : List ReliabilityAction) {n : Nat} {stream : Stream}
    (h : ∃ a f, RingAt n a f stream.reliability) :
    ∃ stream', run reliabilityStep stream as = some stream' ∧
      ∃ a f, RingAt (n + as.countP (·.isSent)) a f stream'.reliability := by
  induction as generalizing n stream with
  | nil => exact ⟨stream, rfl, h⟩
  | cons act as ih =>
    obtain ⟨s₁, h₁, hi⟩ := reliabilityStep_ring h act
    obtain ⟨s₂, h₂, hi₂⟩ := ih hi
    refine ⟨s₂, run_cons_eq_some.2 ⟨s₁, h₁, h₂⟩, ?_⟩
    rw [List.countP_cons, Nat.add_comm (as.countP _), ← Nat.add_assoc]
    exact hi₂

/-- A new stream never faults. -/
theorem streamCreate_run (address : NetAddr) (as : List ReliabilityAction) :
    ∃ stream, run reliabilityStep (streamCreate address) as = some stream ∧
      ∃ a f, RingAt (as.countP (·.isSent)) a f stream.reliability := by
  have hrun := @reliability_run_ring as 0 (streamCreate address) ⟨0, 0, ringAt_clear⟩
  rwa [Nat.zero_add] at hrun

theorem ringAt_of_run {address : NetAddr} {as : List ReliabilityAction} {stream : Stream}
    (hrun : run reliabilityStep (streamCreate address) as = some stream) :
    ∃ a f, RingAt (as.countP (·.isSent)) a f stream.reliability := by
  obtain ⟨stream', hrun', hring⟩ := streamCreate_run address as
  rw [hrun] at hrun'
  cases hrun'
  exact hring

/-- The shape of the ring after `sent` sends: cursors in range, the sent window a suffix of the
acked one and both short of a revolution, ages from oldest to newest never increasing, and the
slot `d` behind `back` holding the sequence `d` before the next one. -/
structure RingShape (sent : Nat) (ref : StreamReliability) : Prop where
  frontSent_lt : ref.frontSent < kStreamReliabilityBufferCapacity
  frontAcked_lt : ref.frontAcked < kStreamReliabilityBufferCapacity
  back_lt : ref.back < kStreamReliabilityBufferCapacity
  sequence_lt : ref.sequence < kStreamReliabilityMaxSequence
  suffix : window kStreamReliabilityBufferCapacity ref.frontSent ref.back <:+
    window kStreamReliabilityBufferCapacity ref.frontAcked ref.back
  sent_length : (window kStreamReliabilityBufferCapacity ref.frontSent ref.back).length ≤ 34
  acked_length : (window kStreamReliabilityBufferCapacity ref.frontAcked ref.back).length ≤ 34
  ages : ((window kStreamReliabilityBufferCapacity ref.frontAcked ref.back).map
    (slotTime ref)).Pairwise (· ≥ ·)
  slots : ∀ d, 1 ≤ d → d ≤ min kStreamReliabilityBufferCapacity sent →
    ∃ p, ref.packets[(ref.back + kStreamReliabilityBufferCapacity - d) %
        kStreamReliabilityBufferCapacity]? = some p ∧
      p.sequence = (ref.sequence + kStreamReliabilityMaxSequence - d) %
        kStreamReliabilityMaxSequence

theorem RingAt.shape {n a f : Nat} {ref : StreamReliability} (h : RingAt n a f ref) :
    RingShape n ref := by
  have h1 := h.acked_le
  have h2 := h.sent_le
  have h3 := h.room
  have hmod : ∀ x, x % 35 < kStreamReliabilityBufferCapacity :=
    fun x => Nat.mod_lt x (by decide)
  refine ⟨h.frontSent ▸ hmod f, h.frontAcked ▸ hmod a, h.back ▸ hmod n,
    h.sequence ▸ Nat.mod_lt n (by decide), ?_, ?_, ?_, ?_, fun d hd1 hd2 => ?_⟩
  · rw [h.frontSent, h.frontAcked, h.back]
    exact window_suffix (c := 35) h1 h2 (by omega)
  · rw [h.frontSent, h.back]
    refine le_trans (le_of_eq (window_length (c := 35) h2 (by omega))) (by omega)
  · rw [h.frontAcked, h.back]
    refine le_trans (le_of_eq (window_length (c := 35) (by omega) (by omega))) (by omega)
  · rw [h.frontAcked, h.back]
    have hw : window kStreamReliabilityBufferCapacity (a % 35) (n % 35) =
        (List.range' a (n - a)).map (· % 35) := window_mod (c := 35) (by omega) (by omega)
    rw [hw, List.map_map, List.pairwise_map]
    refine (List.pairwise_lt_range' (s := a) (n := n - a)).imp_of_mem fun {i j} hi hj hij => ?_
    rw [List.mem_range'_1] at hi hj
    obtain ⟨p, hp, -⟩ := h.slot i (by omega) (by omega)
    obtain ⟨q, hq, -⟩ := h.slot j (by omega) (by omega)
    have := h.age i j p q (by omega) (by omega) (by omega) hp hq
    simpa [slotTime, hp, hq] using this
  · unfold kStreamReliabilityBufferCapacity kStreamReliabilityMaxSequence at *
    obtain ⟨p, hp, hs⟩ := h.slot (n - d) (by omega) (by omega)
    refine ⟨p, ?_, ?_⟩
    · rw [h.back, show (n % 35 + 35 - d) % 35 = (n - d) % 35 by omega]
      exact hp
    · rw [hs, h.sequence]
      omega

/-- **The reliability ring invariant**: in every run of sends, received packets with arbitrary
fields and updates on a new stream, no assert fails, no index leaves the ring, and the ring has the
shape above. -/
theorem ring_invariant (address : NetAddr) (as : List ReliabilityAction) :
    ∃ stream, run reliabilityStep (streamCreate address) as = some stream ∧
      RingShape (as.countP (·.isSent)) stream.reliability := by
  obtain ⟨s, hs, a, f, hi⟩ := streamCreate_run address as
  exact ⟨s, hs, hi.shape⟩

end UniversalNetwork
