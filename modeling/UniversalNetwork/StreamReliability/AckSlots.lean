import UniversalNetwork.StreamReliability.RingInvariant

/-!
# Where an ack is looked up

The sender's sequence goes from 65534 back to 0 (`increase` modulo `0xFFFF`), but the distance in
`streamReliabilityProcessAck` is taken modulo 65536. So the two agree only as long as the ack is
not from before the last wrap: across it the count is one too many, and the scan starts one slot
too far back (`ackCount_slot`, `ack_finds_slot_iff`).

Where a scan starts does not depend on what the slots hold, so `ScansFrom` says it of the function
for all of their contents.

The scan then covers 31 slots, so of the 32 bits of the field the last one is never looked at
(`reported_marked_iff`).
-/

namespace UniversalNetwork

open Lib

/-- The slot `d` behind `back`. -/
def StreamReliability.slotBehind (ref : StreamReliability) (d : Nat) : Nat :=
  (ref.back + kStreamReliabilityBufferCapacity - d) % kStreamReliabilityBufferCapacity

/-- Whatever the slots hold and the field says, the ack is a scan of 31 slots from this one. -/
def StreamReliability.ScansFrom (ref : StreamReliability) (ack slot : Nat) : Prop :=
  ∀ packets ackBits, streamReliabilityProcessAck { ref with packets } ack ackBits =
    processAckLoop 31 { ref with packets } slot ackBits

section Ring

variable {n a f : Nat} {ref : StreamReliability}

/-- A scan with the first bit alone marks its first slot alone. -/
theorem processAckLoop_one (ref : StreamReliability) {pivot : Nat} (hp : pivot < 35) :
    ∃ ref', processAckLoop 31 ref pivot 1#32 = some ref' ∧
      ∀ i, AckedAt ref' i ↔ AckedAt ref i ∨ i = pivot := by
  obtain ⟨ref', hloop, -, hmarks⟩ := processAckLoop_spec 31 ref hp 1#32
  refine ⟨ref', hloop, fun i => (hmarks i).trans (or_congr_right ⟨?_, ?_⟩)⟩
  · rintro ⟨k, -, rfl, hbit⟩
    obtain rfl : k = 0 := by simpa using hbit
    omega
  · rintro rfl
    exact ⟨0, by decide, by omega, by decide⟩

/-- **The slot of a scan shows in its marks.** -/
theorem scansFrom_iff {ack slot : Nat} (hslot : slot < 35) :
    ref.ScansFrom ack slot ↔ scanStart ref ack = some slot := by
  constructor
  · intro h
    -- no slot is marked, and the field has its first bit
    have hone := h (Vector.replicate _ ⟨0, 0, 0, false⟩) 1#32
    rw [streamReliabilityProcessAck, show scanStart { ref with packets := Vector.replicate _ _ } ack =
      scanStart ref ack from rfl] at hone
    generalize hblank : { ref with packets := Vector.replicate _ ⟨0, 0, 0, false⟩ } = blank at hone
    have hunmarked : ∀ i, ¬ AckedAt blank i := by
      rintro i ⟨p, hp, hacked⟩
      rw [← hblank] at hp
      obtain ⟨hi, rfl⟩ := Vector.getElem?_eq_some_iff.1 hp
      simp at hacked
    obtain ⟨ref', hloop, hmarks⟩ := processAckLoop_one blank hslot
    have hmark : AckedAt ref' slot := (hmarks slot).2 (.inr rfl)
    rw [hloop] at hone
    cases hstart : scanStart ref ack with
    | none =>
      rw [hstart] at hone
      cases hone
      exact absurd hmark (hunmarked slot)
    | some pivot =>
      simp only [hstart] at hone
      split at hone
      · rename_i hpivot
        obtain ⟨ref₂, hloop₂, hmarks₂⟩ := processAckLoop_one blank hpivot
        rw [hloop₂] at hone
        cases hone
        rcases (hmarks₂ slot).1 hmark with hold | rfl
        · exact absurd hold (hunmarked slot)
        · rfl
      · cases hone
  · intro h packets ackBits
    rw [streamReliabilityProcessAck, show scanStart { ref with packets } ack = scanStart ref ack from
      rfl, h]
    exact if_pos hslot

theorem RingAt.slotBehind_eq (h : RingAt n a f ref) {d : Nat} (hd : d ≤ 35) (hn : d ≤ n) :
    ref.slotBehind d = (n - d) % 35 := by
  unfold StreamReliability.slotBehind kStreamReliabilityBufferCapacity
  rw [h.back]
  omega

theorem RingAt.get_slotBehind (h : RingAt n a f ref) {d : Nat} (h1 : 1 ≤ d) (hd : d ≤ 35)
    (hn : d ≤ n) {p : StreamPacketMetadata} (hp : ref.packets[ref.slotBehind d]? = some p) :
    p.sequence = (n - d) % 65535 := by
  rw [h.slotBehind_eq hd hn] at hp
  obtain ⟨q, hq, hs⟩ := h.slot (n - d) (by omega) (by omega)
  rw [hp] at hq
  cases hq
  exact hs

/-! ## The slot of an ack -/

/-- The count for the packet `d` back: one too many when the sequence has wrapped since. -/
theorem RingAt.ackCount_slot (h : RingAt n a f ref) {d : Nat} (h1 : 1 ≤ d) (hd : d ≤ 34)
    (hn : d ≤ n) : ackCount ref ((n - d) % 65535) = if d ≤ n % 65535 then d else d + 1 := by
  unfold ackCount kStreamReliabilityMaxSequence
  rw [h.sequence]
  split <;> split <;> omega

theorem decrease_slot {p count : Nat} (hp : p < 35) (hcount : count ≤ 35) :
    decrease p count kStreamReliabilityBufferCapacity = (p + 35 - count) % 35 := by
  unfold decrease kStreamReliabilityBufferCapacity
  split <;> omega

/-- Where the scan for the packet `d` back starts: one slot further back when the sequence has
wrapped since, and not at all when that is a revolution. -/
theorem RingAt.scanStart_slot (h : RingAt n a f ref) (hne : ref.frontSent ≠ ref.back) {d : Nat}
    (h1 : 1 ≤ d) (hd : d ≤ 34) (hn : d ≤ n) : scanStart ref ((n - d) % 65535) =
      if d ≤ n % 65535 then some (ref.slotBehind d)
      else if d = 34 then none else some (ref.slotBehind (d + 1)) := by
  have hback : ref.back < 35 := by
    rw [h.back]
    omega
  have hint : ∀ count : Nat, count ≤ 35 →
      (toInt32 count < kStreamReliabilityBufferCapacity ↔ count < 35) := fun count hcount => by
    unfold toInt32 kStreamReliabilityBufferCapacity
    split <;> omega
  rw [scanStart, h.ackCount_slot h1 hd hn]
  by_cases hwrap : d ≤ n % 65535
  · rw [if_pos hwrap, if_pos hwrap, if_pos ⟨hne, (hint d (by omega)).2 (by omega)⟩,
      decrease_slot hback (by omega)]
    rfl
  rw [if_neg hwrap, if_neg hwrap]
  by_cases hlast : d = 34
  · rw [if_pos hlast, if_neg fun h => absurd ((hint (d + 1) (by omega)).1 h.2) (by omega)]
  · rw [if_neg hlast, if_pos ⟨hne, (hint (d + 1) (by omega)).2 (by omega)⟩,
      decrease_slot hback (by omega)]
    rfl

theorem RingAt.scanStart_slot_iff (h : RingAt n a f ref) (hne : ref.frontSent ≠ ref.back) {d : Nat}
    (h1 : 1 ≤ d) (hd : d ≤ 34) (hn : d ≤ n) :
    scanStart ref ((n - d) % 65535) = some (ref.slotBehind d) ↔ d ≤ n % 65535 := by
  rw [h.scanStart_slot hne h1 hd hn]
  by_cases hwrap : d ≤ n % 65535
  · rw [if_pos hwrap]
    exact iff_of_true rfl hwrap
  · refine iff_of_false (fun heq => ?_) hwrap
    rw [if_neg hwrap] at heq
    split at heq
    · cases heq
    · rename_i hlast
      have hslot := Option.some.inj heq
      rw [h.slotBehind_eq (by omega) hn, h.slotBehind_eq (by omega) (by omega)] at hslot
      omega

end Ring

theorem StreamReliability.slotBehind_lt (ref : StreamReliability) (d : Nat) :
    ref.slotBehind d < 35 := Nat.mod_lt _ (by decide)

/-- **Acks find the right slot exactly when the sequence has not wrapped since**: in every run of a
stream, for the packet `d` behind `back`, one of the last 34 sent. -/
theorem ack_finds_slot_iff (address : NetAddr) (as : List ReliabilityAction) (stream : Stream)
    (hrun : run reliabilityStep (streamCreate address) as = some stream)
    (hne : stream.reliability.frontSent ≠ stream.reliability.back)
    (d : Nat) (h1 : 1 ≤ d) (h34 : d ≤ 34) (hsent : d ≤ as.countP (·.isSent)) :
    ∃ p, stream.reliability.packets[stream.reliability.slotBehind d]? = some p ∧
      (stream.reliability.ScansFrom p.sequence (stream.reliability.slotBehind d) ↔
        d ≤ as.countP (·.isSent) % 65535) ∧
      (ackCount stream.reliability p.sequence = d ↔ d ≤ as.countP (·.isSent) % 65535) := by
  obtain ⟨a, f, hring⟩ := ringAt_of_run hrun
  obtain ⟨p, hp, hs⟩ := hring.slot (as.countP (·.isSent) - d) (by omega) (by omega)
  refine ⟨p, ?_, ?_, ?_⟩
  · rw [hring.slotBehind_eq (by omega) hsent]
    exact hp
  · rw [hs, scansFrom_iff (stream.reliability.slotBehind_lt d)]
    exact hring.scanStart_slot_iff hne h1 h34 hsent
  · rw [hs, hring.ackCount_slot h1 h34 hsent]
    split <;> omega

/-- The older of two packets. -/
theorem ack_finds_slot_second : ∃ stream,
    run reliabilityStep (streamCreate .zeroed) [.packetSent 100, .packetSent 100] = some stream ∧
    ∃ p, stream.reliability.packets[stream.reliability.slotBehind 2]? = some p ∧
      ∀ ackBits, streamReliabilityProcessAck stream.reliability p.sequence ackBits =
        processAckLoop 31 stream.reliability (stream.reliability.slotBehind 2) ackBits := by
  have hrun : (run reliabilityStep (streamCreate .zeroed) [.packetSent 100, .packetSent 100]).map
      (fun stream => decide (stream.reliability.frontSent ≠ stream.reliability.back)) =
        some true := by
    decide +kernel
  obtain ⟨stream, hrun, hne⟩ := Option.map_eq_some_iff.1 hrun
  obtain ⟨p, hp, hscan, -⟩ := ack_finds_slot_iff .zeroed _ stream hrun (of_decide_eq_true hne) 2
    (by decide) (by decide) (by decide)
  exact ⟨stream, hrun, p, hp, hscan.2 (by decide) stream.reliability.packets⟩

/-- The assert at the end of a send. -/
theorem packetSent_nonempty {ref ref' : StreamReliability} {size : Nat}
    (h : streamReliabilityPacketSent ref size = some ref') : ref'.frontSent ≠ ref'.back := by
  obtain ⟨packets, -, h⟩ := Option.bind_eq_some_iff.1 h
  dsimp only at h
  split at h
  · rename_i hne
    cases h
    exact hne.1
  · cases h

/-- The ack of the packet that took the last sequence marks the packet before it. -/
theorem RingAt.misses_last {n a f size : Nat} {ref ref' : StreamReliability}
    (h : RingAt (n + 1) a f ref') (hsent : SentAt n size ref ref')
    (hne : ref'.frontSent ≠ ref'.back) (hn : 1 ≤ n) (hwrap : (n + 1) % 65535 = 0) :
    ¬ ∃ p, ref'.packets[ref'.slotBehind 1]? = some p ∧
      ∀ ackBits, streamReliabilityProcessAck ref' p.sequence ackBits =
        processAckLoop 31 ref' (ref'.slotBehind 1) ackBits := by
  rintro ⟨p, hp, hscan⟩
  have hscan := hscan 1#32
  have hlast : ref'.slotBehind 1 = n % 35 := h.slotBehind_eq (by omega) (by omega)
  have hother : ref'.slotBehind 2 = (n - 1) % 35 := h.slotBehind_eq (by omega) (by omega)
  have hstart := h.scanStart_slot hne (Nat.le_refl 1) (by omega) (by omega)
  rw [if_neg (by omega), if_neg (by omega)] at hstart
  rw [h.get_slotBehind (Nat.le_refl 1) (by omega) (by omega) hp, streamReliabilityProcessAck,
    hstart] at hscan
  obtain ⟨ref₁, hloop₁, hmarks₁⟩ := processAckLoop_one ref' (ref'.slotBehind_lt 1)
  obtain ⟨ref₂, hloop₂, hmarks₂⟩ := processAckLoop_one ref' (ref'.slotBehind_lt 2)
  dsimp only at hscan
  rw [if_pos (show _ < kStreamReliabilityBufferCapacity from ref'.slotBehind_lt 2), hloop₁, hloop₂]
    at hscan
  cases hscan
  have hmark : AckedAt ref₁ (ref'.slotBehind 1) := (hmarks₁ _).2 (.inr rfl)
  rcases (hmarks₂ _).1 hmark with hold | hslot
  · rw [hlast, ← slotAcked_iff, hsent.slotAcked_eq, if_pos rfl] at hold
    cases hold
  · omega

/-- After 65535 sends the next sequence is 0 and the last one was 65534: its ack counts as two back,
and marks the packet before it. -/
theorem ack_misses_slot : ¬ ∀ (sizes : List Nat) (stream : Stream),
    run reliabilityStep (streamCreate .zeroed) (sizes.map .packetSent) = some stream →
    stream.reliability.frontSent ≠ stream.reliability.back →
    ∀ d, 1 ≤ d → d ≤ 34 → d ≤ sizes.length →
      ∃ p, stream.reliability.packets[stream.reliability.slotBehind d]? = some p ∧
        ∀ ackBits, streamReliabilityProcessAck stream.reliability p.sequence ackBits =
          processAckLoop 31 stream.reliability (stream.reliability.slotBehind d) ackBits := by
  intro hall
  have hcount : ((List.replicate 65534 100).map ReliabilityAction.packetSent).countP (·.isSent) =
      65534 := by
    rw [List.map_replicate, List.countP_replicate]
    rfl
  obtain ⟨before, hbefore, a, f, hring⟩ :=
    streamCreate_run .zeroed ((List.replicate 65534 100).map .packetSent)
  rw [hcount] at hring
  obtain ⟨ref, hsent, hring', hat⟩ := hring.packetSent 100
  have hrun : run reliabilityStep (streamCreate .zeroed)
      ((List.replicate 65534 100 ++ [100]).map .packetSent) =
        some { before with reliability := ref } := by
    rw [List.map_append]
    exact run_snoc_eq_some.2 ⟨before, hbefore, Option.bind_eq_some_iff.2 ⟨ref, hsent, rfl⟩⟩
  have hne : ref.frontSent ≠ ref.back := packetSent_nonempty hsent
  refine hring'.misses_last hat hne (by decide) (by decide) ?_
  exact hall _ _ hrun hne 1 (Nat.le_refl 1) (by decide)
    (by rw [List.length_append, List.length_singleton]; exact Nat.le_add_left 1 _)

/-! ## The bits of an ack -/

/-- Each of the last 35 packets sent whose bit is set, among the 32 from the ack down, is marked. -/
def StreamReliability.MarksReported (ref : StreamReliability) (sent ack : Nat)
    (ackBits : BitVec 32) : Prop :=
  ∀ d p, 1 ≤ d → d ≤ min 35 sent → ref.packets[ref.slotBehind d]? = some p →
    ∀ k ≤ 31, p.sequence + k = ack → ackBits.getLsbD k = true → p.acked = true

/-- Bit 31 reports a packet among the last 35 that is not marked yet. -/
def StreamReliability.LastBitNews (ref : StreamReliability) (sent ack : Nat)
    (ackBits : BitVec 32) : Prop :=
  ackBits.getLsbD 31 = true ∧ ∃ d p, 1 ≤ d ∧ d ≤ min 35 sent ∧
    ref.packets[ref.slotBehind d]? = some p ∧ p.sequence + 31 = ack ∧ p.acked = false

theorem RingAt.marksReported_iff {n a f : Nat} {ref : StreamReliability} (h : RingAt n a f ref)
    (hn : n < 65535) (hne : ref.frontSent ≠ ref.back) {d : Nat} (h1 : 1 ≤ d) (hd : d ≤ 34)
    (hsent : d ≤ n) (ackBits : BitVec 32) :
    ∃ ref', streamReliabilityProcessAck ref (n - d) ackBits = some ref' ∧
      (ref'.MarksReported n (n - d) ackBits ↔ ¬ ref.LastBitNews n (n - d) ackBits) := by
  have hseq : ref.sequence = n := by
    rw [h.sequence, Nat.mod_eq_of_lt hn]
  obtain ⟨ref', hack, hscan, hmarks⟩ := h.processAck (by omega : n - d ≤ ref.sequence) ackBits
  have hring := h.sameRing hscan.toSameRing
  refine ⟨ref', hack, ?_⟩
  rw [hseq, show n - (n - d) = d by omega] at hmarks
  constructor
  · -- the scan ends before the slot of bit 31
    rintro hreported ⟨hbit, e, p, he1, he, hp, hpack, hacked⟩
    have hpe := h.get_slotBehind he1 (by omega) (by omega) hp
    rw [Nat.mod_eq_of_lt (by omega)] at hpe
    rw [h.slotBehind_eq (by omega) (by omega)] at hp
    obtain ⟨q, hq, hqs⟩ := hring.slot (n - e) (by omega) (by omega)
    have hqacked : q.acked = true := by
      refine hreported e q he1 he ?_ 31 (by omega) (by omega) hbit
      rw [hring.slotBehind_eq (by omega) (by omega)]
      exact hq
    rcases (hmarks _).1 ⟨q, hq, hqacked⟩ with ⟨p', hp', hold⟩ | ⟨-, k, hk, hslot, -⟩
    · rw [hp] at hp'
      cases hp'
      rw [hacked] at hold
      cases hold
    · omega
  · intro hnews e q he1 he hq k hk hqack hbit
    have hqe := hring.get_slotBehind he1 (by omega) (by omega) hq
    rw [Nat.mod_eq_of_lt (by omega)] at hqe
    rw [hring.slotBehind_eq (by omega) (by omega)] at hq
    have hmarked : AckedAt ref' ((n - e) % 35) := by
      refine (hmarks _).2 ?_
      rcases Nat.lt_or_ge k 31 with hlt | hge
      · exact .inr ⟨⟨hne, by omega, by omega⟩, k, hlt, by omega, hbit⟩
      · obtain rfl : k = 31 := by omega
        obtain ⟨p, hp, hps⟩ := h.slot (n - e) (by omega) (by omega)
        cases hacked : p.acked with
        | true => exact .inl ⟨p, hp, hacked⟩
        | false =>
          refine absurd ⟨hbit, e, p, he1, he, ?_, by omega, hacked⟩ hnews
          rw [h.slotBehind_eq (by omega) (by omega)]
          exact hp
    obtain ⟨q', hq', hacked⟩ := hmarked
    rw [hq] at hq'
    cases hq'
    exact hacked

/-- **A reported packet is missed exactly when only bit 31 reports it**: in every run without a
sequence wrap, for an ack of one of the last 34 packets and any field. -/
theorem reported_marked_iff (address : NetAddr) (as : List ReliabilityAction) (stream : Stream)
    (hrun : run reliabilityStep (streamCreate address) as = some stream)
    (hwrap : as.countP (·.isSent) < 65535)
    (hne : stream.reliability.frontSent ≠ stream.reliability.back)
    (d : Nat) (h1 : 1 ≤ d) (h34 : d ≤ 34) (hsent : d ≤ as.countP (·.isSent))
    (ackBits : BitVec 32) :
    ∃ p, stream.reliability.packets[stream.reliability.slotBehind d]? = some p ∧
      ∃ ref', streamReliabilityProcessAck stream.reliability p.sequence ackBits = some ref' ∧
        (ref'.MarksReported (as.countP (·.isSent)) p.sequence ackBits ↔
          ¬ stream.reliability.LastBitNews (as.countP (·.isSent)) p.sequence ackBits) := by
  obtain ⟨a, f, hring⟩ := ringAt_of_run hrun
  obtain ⟨p, hp, hs⟩ := hring.slot (as.countP (·.isSent) - d) (by omega) (by omega)
  rw [Nat.mod_eq_of_lt (by omega)] at hs
  refine ⟨p, ?_, ?_⟩
  · rw [hring.slotBehind_eq (by omega) hsent]
    exact hp
  · rw [hs]
    exact hring.marksReported_iff hwrap hne h1 h34 hsent ackBits

/-- The newest of three packets is acked, with the bit of the oldest. -/
theorem reported_marked_third : ∃ stream ref',
    run reliabilityStep (streamCreate .zeroed) (List.replicate 3 (.packetSent 100)) =
      some stream ∧
    streamReliabilityProcessAck stream.reliability 2 0b101#32 = some ref' ∧
    ref'.MarksReported 3 2 0b101#32 := by
  have hrun : (run reliabilityStep (streamCreate .zeroed)
      (List.replicate 3 (.packetSent 100))).map (fun stream =>
        (stream.reliability.packets[stream.reliability.slotBehind 1]?,
          decide (stream.reliability.frontSent ≠ stream.reliability.back))) =
      some (some ⟨2, 0, 100, false⟩, true) := by
    decide +kernel
  obtain ⟨stream, hrun, heq⟩ := Option.map_eq_some_iff.1 hrun
  obtain ⟨hslot, hne⟩ := Prod.mk.inj heq
  obtain ⟨p, hp, ref', hack, hmarks⟩ := reported_marked_iff .zeroed _ stream hrun (by decide)
    (of_decide_eq_true hne) 1 (by decide) (by decide) (by decide) 0b101#32
  rw [hslot] at hp
  cases hp
  exact ⟨stream, ref', hrun, hack, hmarks.2 fun hnews => absurd hnews.1 (by decide)⟩

/-- 32 packets, and only the last bit for the oldest: it stays unmarked. -/
theorem last_bit_missed : ¬ ∀ (as : List ReliabilityAction) (stream : Stream),
    run reliabilityStep (streamCreate .zeroed) as = some stream →
    as.countP (·.isSent) < 65535 → stream.reliability.frontSent ≠ stream.reliability.back →
    ∀ d p, 1 ≤ d → d ≤ 34 → d ≤ as.countP (·.isSent) →
      stream.reliability.packets[stream.reliability.slotBehind d]? = some p →
      ∀ ackBits ref', streamReliabilityProcessAck stream.reliability p.sequence ackBits = some ref' →
        ref'.MarksReported (as.countP (·.isSent)) p.sequence ackBits := by
  intro hall
  have hrun : (run reliabilityStep (streamCreate .zeroed)
      (List.replicate 32 (.packetSent 100))).bind (fun stream =>
        (streamReliabilityProcessAck stream.reliability 31 0x80000000#32).map fun ref' =>
          (stream.reliability.packets[stream.reliability.slotBehind 1]?,
            decide (stream.reliability.frontSent ≠ stream.reliability.back),
            ref'.packets[ref'.slotBehind 32]?)) =
      some (some ⟨31, 0, 100, false⟩, true, some ⟨0, 0, 100, false⟩) := by
    decide +kernel
  obtain ⟨stream, hrun, hack⟩ := Option.bind_eq_some_iff.1 hrun
  obtain ⟨ref', hack, heq⟩ := Option.map_eq_some_iff.1 hack
  simp only [Prod.mk.injEq, decide_eq_true_eq] at heq
  have hmarks := hall _ stream hrun (by decide) heq.2.1 1 _ (by decide) (by decide) (by decide)
    heq.1 _ ref' hack
  have hmarked := hmarks 32 _ (by decide) (by decide) heq.2.2 31 (by decide) rfl (by decide)
  cases hmarked

end UniversalNetwork
