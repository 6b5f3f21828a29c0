import UniversalNetwork.StreamReliability.AckSlots

/-!
# What becomes of each packet

`totalAckedPackets` is counted by the scan of an ack, `totalLostPackets` by the sent front as it
passes a packet without a mark. A ledger says which packets they count: the slots a step marks and
the slots its sent front passes, as the packets that were in them (`ledgerStep`).

`LedgerMove` is what a step does to the ledger (`LedgerAt.step`): the totals are what the ledger has
booked, modulo `2 ^ 32`.
-/

namespace UniversalNetwork

open Lib

/-- The number of the packet in slot `i` after `sent` sends; a slot may not have been written yet. -/
def StreamReliability.packetNumber (ref : StreamReliability) (sent i : Nat) : Option Nat :=
  let distance := 35 - (i + 35 - ref.back) % 35
  if distance ≤ sent then some (sent - distance) else none

/-- A stream with what became of the packets it sent. -/
structure Ledger where
  stream : Stream
  sent : Nat
  /-- An update was made since the last send. -/
  updated : Bool
  /-- The packets counted as acked. -/
  acked : List (Option Nat)
  /-- The packets that an update took out of the sent window, with their marks. -/
  expired : List (Option Nat × Bool)
  /-- The packets that a send took out of it. -/
  overwritten : List (Option Nat × Bool)

namespace Ledger

def start (address : NetAddr) : Ledger := ⟨streamCreate address, 0, false, [], [], []⟩

/-- The packets counted as lost. -/
def lost (l : Ledger) : List (Option Nat) := (l.expired.filter (!·.2)).map (·.1)

end Ledger

/-- The packets in the slots that the sent front passes, with their marks. -/
def passed (sent : Nat) (ref ref' : StreamReliability) : List (Option Nat × Bool) :=
  (window kStreamReliabilityBufferCapacity ref.frontSent ref'.frontSent).map fun i =>
    (ref.packetNumber sent i, slotAcked ref i)

def ledgerStep (l : Ledger) (act : ReliabilityAction) : Option Ledger :=
  (reliabilityStep l.stream act).map fun stream =>
    let left := passed l.sent l.stream.reliability stream.reliability
    let acked := l.acked ++ (newlyAcked l.stream.reliability stream.reliability).map
      (l.stream.reliability.packetNumber l.sent)
    match act with
    | .packetSent _ => { l with
        stream, acked, sent := l.sent + 1, updated := false, overwritten := l.overwritten ++ left }
    | .receive _ _ _ => { l with stream, acked }
    | .update _ => { l with stream, acked, updated := true, expired := l.expired ++ left }

/-! ## Packet numbers -/

section Numbers

variable {n a f : Nat} {ref : StreamReliability}

theorem RingAt.packetNumber_slot (h : RingAt n a f ref) {j : Nat} (hj : j < n) (hr : n ≤ j + 35) :
    ref.packetNumber n (j % 35) = some j := by
  have hdistance : 35 - (j % 35 + 35 - ref.back) % 35 = n - j := by
    rw [h.back]
    omega
  simp only [StreamReliability.packetNumber, hdistance]
  rw [if_pos (by omega), show n - (n - j) = j by omega]

theorem RingAt.packetNumber_eq_some (h : RingAt n a f ref) {i j : Nat} (hi : i < 35)
    (hj : ref.packetNumber n i = some j) : j < n ∧ n ≤ j + 35 ∧ i = j % 35 := by
  unfold StreamReliability.packetNumber at hj
  dsimp only at hj
  rw [h.back] at hj
  split at hj
  · cases hj
    omega
  · cases hj

theorem passed_refl (sent : Nat) (ref : StreamReliability) : passed sent ref ref = [] := by
  simp [passed, window]

theorem RingAt.passed_eq {a' f' : Nat} {ref' : StreamReliability} (h : RingAt n a f ref)
    (h' : RingAt n a' f' ref') (hle : f ≤ f') :
    passed n ref ref' =
      (List.range' f (f' - f)).map fun j => (some j, slotAcked ref (j % 35)) := by
  have h1 := h.acked_le
  have h3 := h.room
  have h2' := h'.sent_le
  unfold passed
  rw [h.frontSent, h'.frontSent, show window kStreamReliabilityBufferCapacity (f % 35) (f' % 35) =
    (List.range' f (f' - f)).map (· % 35) from window_mod (c := 35) hle (by omega), List.map_map]
  refine List.map_congr_left fun j hj => ?_
  rw [List.mem_range'_1] at hj
  simp only [Function.comp_apply, h.packetNumber_slot (j := j) (by omega) (by omega)]

end Numbers

/-! ## The books -/

/-- The totals are what the ledger has booked. -/
structure LedgerAt (n a f : Nat) (l : Ledger) : Prop where
  sent : l.sent = n
  ring : RingAt n a f l.stream.reliability
  totalSentPackets : l.stream.reliability.totalSentPackets = n % 2 ^ 32
  totalAckedPackets : l.stream.reliability.totalAckedPackets = l.acked.length % 2 ^ 32
  totalLostPackets : l.stream.reliability.totalLostPackets = l.lost.length % 2 ^ 32

theorem ledgerAt_start (address : NetAddr) : LedgerAt 0 0 0 (.start address) where
  sent := rfl
  ring := ringAt_clear
  totalSentPackets := rfl
  totalAckedPackets := rfl
  totalLostPackets := rfl

/-- What a received packet does to the reliability state: it sets marks of slots in the scan, if it
is accepted. -/
structure Received (ack : Nat) (ackBits : BitVec 32) (ref ref' : StreamReliability) : Prop extends
    SameRing ref ref' where
  marks : ∀ i, slotAcked ref i = true → slotAcked ref' i = true
  scanned : ∀ i ∈ newlyAcked ref ref', ack ≤ ref.sequence ∧ ∃ first, scanStart ref ack = some first ∧
    ∃ k < 31, i = (first + 34 * k) % 35 ∧ ackBits.getLsbD k = true
  totalAckedPackets : ∀ c, ref.totalAckedPackets = c % 2 ^ 32 →
    ref'.totalAckedPackets = (c + (newlyAcked ref ref').length) % 2 ^ 32

/-- What a step does to the ledger and to the positions of the windows. -/
inductive LedgerMove (n a f : Nat) (l : Ledger) :
    ReliabilityAction → Nat → Nat → Nat → Ledger → Prop
  | sent {size : Nat} {stream : Stream}
    (hsent : SentAt n size l.stream.reliability stream.reliability) :
    LedgerMove n a f l (.packetSent size) (n + 1) (frontAfterSend n a) (frontAfterSend n f)
      { l with
        stream, sent := n + 1, updated := false
        overwritten := l.overwritten ++ passed n l.stream.reliability stream.reliability }
  | received {sequence ack : Nat} {ackBits : BitVec 32} {stream : Stream}
    (hreceived : Received ack ackBits l.stream.reliability stream.reliability) :
    LedgerMove n a f l (.receive sequence ack ackBits) n a f
      { l with
        stream
        acked := l.acked ++ (newlyAcked l.stream.reliability stream.reliability).map
          (l.stream.reliability.packetNumber n) }
  | idle {dt : ℚ≥0} (hempty : f = n) :
    LedgerMove n a f l (.update dt) n a f { l with updated := true }
  | updated {dt : ℚ≥0} {stream : Stream} {a' f' : Nat}
    (hupdated : UpdatedAt n a f a' f' dt l.stream.reliability stream.reliability) :
    LedgerMove n a f l (.update dt) n a' f'
      { l with
        stream, updated := true
        expired := l.expired ++ (List.range' f (f' - f)).map fun j =>
          (some j, slotAcked l.stream.reliability (j % 35)) }

/-! ## The steps -/

/-- A send and an update set no mark. -/
theorem newlyAcked_eq_nil {ref ref' : StreamReliability}
    (h : ∀ i, slotAcked ref' i = true → slotAcked ref i = true) : newlyAcked ref ref' = [] := by
  rw [newlyAcked, List.filter_eq_nil_iff]
  intro i _
  have := h i
  cases hm : slotAcked ref' i <;> simp_all

theorem UpdatedAt.slotAcked_eq {n a f a' f' : Nat} {dt : ℚ} {ref ref' : StreamReliability}
    (h : UpdatedAt n a f a' f' dt ref ref') (i : Nat) : slotAcked ref' i = slotAcked ref i := by
  rw [← slotAcked_aged ref dt i]
  unfold slotAcked
  rw [h.packets]

theorem scanStart_processSequence (ref : StreamReliability) (sequence ack : Nat) :
    scanStart (streamReliabilityProcessSequence ref sequence) ack = scanStart ref ack := by
  unfold streamReliabilityProcessSequence
  split
  · rfl
  · rfl

theorem slotAcked_processSequence (ref : StreamReliability) (sequence i : Nat) :
    slotAcked (streamReliabilityProcessSequence ref sequence) i = slotAcked ref i := by
  unfold streamReliabilityProcessSequence
  split
  · rfl
  · rfl

theorem totalAckedPackets_processSequence (ref : StreamReliability) (sequence : Nat) :
    (streamReliabilityProcessSequence ref sequence).totalAckedPackets = ref.totalAckedPackets := by
  unfold streamReliabilityProcessSequence
  split
  · rfl
  · rfl

theorem streamReceive_received {stream stream' : Stream} {sequence ack : Nat} {ackBits : BitVec 32}
    {accepted : Bool} (h : streamReceive stream sequence ack ackBits = some (stream', accepted)) :
    Received ack ackBits stream.reliability stream'.reliability := by
  unfold streamReceive at h
  split at h
  · rename_i hack
    obtain ⟨ref', href, h⟩ := Option.bind_eq_some_iff.1 h
    cases h
    have hsame := packetReceived_sameRing href
    obtain ⟨r, hr, href⟩ := Option.bind_eq_some_iff.1 href
    cases href
    obtain ⟨hscan, hslots⟩ := processAck_scanned hr
    have hnew : newlyAcked (streamReliabilityProcessSequence stream.reliability sequence) r =
        newlyAcked stream.reliability r := by
      unfold newlyAcked
      simp only [slotAcked_processSequence]
    rw [scanStart_processSequence, hnew] at hslots
    refine ⟨hsame, fun i hi => ?_, fun i hi => ⟨hack, hslots i hi⟩, fun c hc => ?_⟩
    · exact hscan.marks i ((slotAcked_processSequence ..).trans hi)
    · have htotal := hscan.totalAckedPackets c ((totalAckedPackets_processSequence ..).trans hc)
      rw [hnew] at htotal
      exact htotal
  · cases h
    refine ⟨.refl _, fun _ h => h, fun i hi => ?_, fun c hc => ?_⟩
    · rw [newlyAcked_eq_nil fun _ h => h] at hi
      cases hi
    · rw [newlyAcked_eq_nil fun _ h => h, hc]
      rfl

/-- An update books the packets without a mark as lost. -/
theorem lost_expired {l l' : Ledger} {ref : StreamReliability} {f f' : Nat}
    (h : l'.expired = l.expired ++ (List.range' f (f' - f)).map fun j =>
      (some j, slotAcked ref (j % 35))) :
    l'.lost = l.lost ++ (unmarkedBetween ref f f').map some := by
  simp only [Ledger.lost, h, unmarkedBetween, List.filter_append, List.map_append, List.filter_map,
    List.map_map]
  rfl

theorem unmarkedBetween_aged (ref : StreamReliability) (dt : ℚ) (lo hi : Nat) :
    unmarkedBetween (ref.aged dt) lo hi = unmarkedBetween ref lo hi := by
  simp [unmarkedBetween]

/-- **One step**: it does one of the moves, keeps the books and does not fault. -/
theorem LedgerAt.step {n a f : Nat} {l : Ledger} (h : LedgerAt n a f l) (act : ReliabilityAction) :
    ∃ n' a' f' l', ledgerStep l act = some l' ∧ LedgerAt n' a' f' l' ∧
      LedgerMove n a f l act n' a' f' l' := by
  obtain ⟨rfl, hring, hsent, hacked, hlost⟩ := h
  cases act with
  | packetSent size =>
    obtain ⟨ref, href, hring', hat⟩ := hring.packetSent size
    have hnew : newlyAcked l.stream.reliability ref = [] := newlyAcked_eq_nil fun i hi => by
      rw [hat.slotAcked_eq] at hi
      split at hi
      · cases hi
      · exact hi
    refine ⟨_, _, _, _, ?_, ?_, @LedgerMove.sent _ _ _ l size { l.stream with reliability := ref } hat⟩
    · simp [ledgerStep, reliabilityStep, href, hnew]
    · refine ⟨rfl, hring', ?_, ?_, ?_⟩
      · rw [hat.totalSentPackets, hsent]
        omega
      · exact hat.totalAckedPackets.trans hacked
      · exact hat.totalLostPackets.trans hlost
  | receive sequence ack ackBits =>
    obtain ⟨stream, hstream, a', f', hring'⟩ := reliabilityStep_ring ⟨a, f, hring⟩
      (.receive sequence ack ackBits)
    have hstep := hstream
    obtain ⟨⟨stream', accepted⟩, hreceive, heq⟩ := Option.bind_eq_some_iff.1 hstream
    cases heq
    have hreceived := streamReceive_received hreceive
    refine ⟨_, _, _, _, ?_, ?_, @LedgerMove.received _ _ _ l sequence ack ackBits stream hreceived⟩
    · simp [ledgerStep, hstep]
    · refine ⟨rfl, hring.sameRing hreceived.toSameRing, ?_, ?_, ?_⟩
      · exact hreceived.totalSentPackets.trans hsent
      · rw [List.length_append, List.length_map]
        exact hreceived.totalAckedPackets _ hacked
      · exact hreceived.totalLostPackets.trans hlost
  | update dt =>
    rcases hring.update (NNRat.coe_nonneg dt) with ⟨hempty, href⟩ | ⟨a', f', ref, href, hring', hat⟩
    · refine ⟨_, _, _, _, ?_, ?_, .idle hempty⟩
      · have hnew : newlyAcked l.stream.reliability l.stream.reliability = [] :=
          newlyAcked_eq_nil fun _ h => h
        simp [ledgerStep, reliabilityStep, href, hnew, passed_refl]
      · exact ⟨rfl, hring, hsent, hacked, hlost⟩
    · have hnew : newlyAcked l.stream.reliability ref = [] := newlyAcked_eq_nil fun i hi => by
        rwa [hat.slotAcked_eq] at hi
      refine ⟨_, _, _, _, ?_, ?_,
        @LedgerMove.updated _ _ _ l dt { l.stream with reliability := ref } a' f' hat⟩
      · simp [ledgerStep, reliabilityStep, href, hnew, hring.passed_eq hring' hat.le]
      · refine ⟨rfl, hring', ?_, ?_, ?_⟩
        · exact hat.totalSentPackets.trans hsent
        · exact hat.totalAckedPackets.trans hacked
        · have hcount := hat.totalLostPackets _ hlost
          rw [unmarkedBetween_aged] at hcount
          refine hcount.trans (congrArg (· % 2 ^ 32) ?_)
          refine Eq.trans ?_ (congrArg List.length (lost_expired (l := l) rfl)).symm
          rw [List.length_append, List.length_map]

/-- What each move that meets `ok` keeps, beside the books, holds after a run. -/
theorem ledger_along {P : Nat → Nat → Nat → Ledger → Prop} {ok : Ledger → ReliabilityAction → Prop}
    {address : NetAddr} {as : List ReliabilityAction} {l : Ledger}
    (hledger : ∀ {n a f l}, P n a f l → LedgerAt n a f l) (h0 : P 0 0 0 (.start address))
    (hmove : ∀ {n a f l act n' a' f' l'}, P n a f l → ok l act → LedgerAt n' a' f' l' →
      LedgerMove n a f l act n' a' f' l' → P n' a' f' l')
    (hrun : run ledgerStep (.start address) as = some l)
    (hok : Along ledgerStep ok (.start address) as) : ∃ n a f, P n a f l := by
  refine run_along (P := fun l => ∃ n a f, P n a f l) ⟨0, 0, 0, h0⟩ ?_ hrun hok
  rintro l act l' ⟨n, a, f, h⟩ hact hstep
  obtain ⟨n', a', f', l'', hl'', hat, hl⟩ := (hledger h).step act
  rw [hstep] at hl''
  cases hl''
  exact ⟨n', a', f', hmove h hact hat hl⟩

/-- No run faults. -/
theorem ledger_run (address : NetAddr) (as : List ReliabilityAction) :
    ∃ l, run ledgerStep (.start address) as = some l := by
  obtain ⟨l, hl, -⟩ := run_safe (P := fun l => ∃ n a f, LedgerAt n a f l)
    ⟨0, 0, 0, ledgerAt_start address⟩ (fun l act ⟨n, a, f, h⟩ => by
      obtain ⟨n', a', f', l', hl', h', -⟩ := h.step act
      exact ⟨l', hl', n', a', f', h'⟩) as
  exact ⟨l, hl⟩

end UniversalNetwork
