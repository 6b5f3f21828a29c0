import UniversalNetwork.StreamReliability.Ledger
import Mathlib.Algebra.Order.BigOperators.Group.List

/-!
# The sent window under the timer

The timer updates a stream every 1/15 s and sends on it at most once after each update. A packet
leaves the sent window when it is more than a second old, and the one `d` before the last is at least
`d` updates old: so there are never more than 16, less than half the ring, and no send runs into the
front of the window.

`sent_window_accounted`: `sentBytes` are the bytes of the packets in the window, an update takes no
more from it than there is, and `totalLostPackets` is the number of packets that left the window
without a mark, as far as 32 bits go (`lost_packets_wrap`).
-/

namespace UniversalNetwork

open Lib

/-- What the timer does: updates of 1/15 s, and after each of them one send at most, of a packet of
at most 256 bytes. Packets are received at any time. -/
def OnTimer (l : Ledger) : ReliabilityAction → Prop
  | .packetSent size => l.updated = true ∧ size ≤ 256
  | .receive _ _ _ => True
  | .update deltaTime => (deltaTime : ℚ) = 1 / 15

instance (l : Ledger) : ∀ act : ReliabilityAction, Decidable (OnTimer l act)
  | .packetSent _ => inferInstanceAs (Decidable (_ ∧ _))
  | .receive _ _ _ => .isTrue trivial
  | .update _ => inferInstanceAs (Decidable (_ = _))

/-- The bytes of the packets from the sent front up to a cursor. -/
def StreamReliability.bytesTo (ref : StreamReliability) (cursor : Nat) : Nat :=
  ((window kStreamReliabilityBufferCapacity ref.frontSent cursor).map (slotSize ref)).sum

/-- The sent window holds at most 16 packets, none was overwritten while in it, their bytes are in
flight, and what the next update takes out of it is taken from there. -/
structure WindowAccounted (l : Ledger) : Prop where
  length_le : (window kStreamReliabilityBufferCapacity l.stream.reliability.frontSent
    l.stream.reliability.back).length ≤ 16
  overwritten : l.overwritten = []
  sentBytes : l.stream.reliability.sentBytes =
    l.stream.reliability.bytesTo l.stream.reliability.back
  update : ∀ l', ledgerStep l (.update (1 / 15)) = some l' →
    l.stream.reliability.sentBytes = l'.stream.reliability.sentBytes +
      l.stream.reliability.bytesTo l'.stream.reliability.frontSent

/-! ## The invariant -/

/-- The packets in the sent window are as old as the number of sends after them requires, and what
is in flight is their bytes. -/
structure WindowKept (n a f : Nat) (l : Ledger) : Prop where
  ledger : LedgerAt n a f l
  old : ∀ j, f ≤ j → j < n → (((n - 1 - j : Nat) : ℚ) + if l.updated then 1 else 0) / 15 ≤
    slotTime l.stream.reliability (j % 35)
  young : YoungAt (kStreamReliabilityMaxRtt + rttEpsilon) n f l.stream.reliability
  small : ∀ j, f ≤ j → j < n → slotSize l.stream.reliability (j % 35) ≤ 256
  sentBytes : l.stream.reliability.sentBytes = bytesBetween l.stream.reliability f n
  overwritten : l.overwritten = []
  expired : l.expired.length = f

theorem bytesBetween_le {ref : StreamReliability} {lo hi : Nat}
    (h : ∀ j, lo ≤ j → j < hi → slotSize ref (j % 35) ≤ 256) :
    bytesBetween ref lo hi ≤ (hi - lo) * 256 := by
  have hsum := List.sum_le_card_nsmul ((List.range' lo (hi - lo)).map fun j => slotSize ref (j % 35))
    256 (by
      intro x hx
      obtain ⟨j, hj, rfl⟩ := List.mem_map.1 hx
      rw [List.mem_range'_1] at hj
      exact h j (by omega) (by omega))
  simpa [bytesBetween] using hsum

theorem bytesBetween_congr {ref ref' : StreamReliability} {lo hi : Nat}
    (h : ∀ j, lo ≤ j → j < hi → slotSize ref' (j % 35) = slotSize ref (j % 35)) :
    bytesBetween ref' lo hi = bytesBetween ref lo hi := by
  unfold bytesBetween
  congr 1
  refine List.map_congr_left fun j hj => ?_
  rw [List.mem_range'_1] at hj
  exact h j (by omega) (by omega)

section Steps

variable {n a f : Nat} {l : Ledger}

/-- There are at most 16 packets in the window, and 15 after an update. -/
theorem WindowKept.length_le (h : WindowKept n a f l) : n - f + (if l.updated then 1 else 0) ≤ 16 := by
  have hle := h.ledger.ring.sent_le
  rcases h.young with rfl | hyoung
  · split <;> omega
  · by_contra hlong
    have hfn : f < n := by
      by_contra hempty
      split at hlong <;> omega
    have hold := h.old f (le_refl f) hfn
    unfold kStreamReliabilityMaxRtt rttEpsilon at hyoung
    have hcount : (16 : ℚ) ≤ ((n - 1 - f : Nat) : ℚ) + if l.updated then 1 else 0 := by
      split
      · rename_i hupdated
        rw [if_pos hupdated] at hlong
        have : 15 ≤ n - 1 - f := by omega
        have : (15 : ℚ) ≤ ((n - 1 - f : Nat) : ℚ) := by exact_mod_cast this
        linarith
      · rename_i hupdated
        rw [if_neg hupdated] at hlong
        have : 16 ≤ n - 1 - f := by omega
        have : (16 : ℚ) ≤ ((n - 1 - f : Nat) : ℚ) := by exact_mod_cast this
        linarith
    have : (16 : ℚ) / 15 ≤ 1 + 1 / 10000 := by linarith
    norm_num at this

theorem windowKept_start (address : NetAddr) : WindowKept 0 0 0 (.start address) where
  ledger := ledgerAt_start address
  old := fun j _ hj => absurd hj (by omega)
  young := .inl rfl
  small := fun j _ hj => absurd hj (by omega)
  sentBytes := rfl
  overwritten := rfl
  expired := rfl

/-- A send goes to a slot outside the window. -/
theorem WindowKept.packetSent (h : WindowKept n a f l) {size : Nat} {l' : Ledger}
    (hupdated : l.updated = true) (hsize : size ≤ 256) {stream : Stream}
    (hsent : SentAt n size l.stream.reliability stream.reliability)
    (hl' : l' =
      { l with
        stream, sent := n + 1, updated := false
        overwritten := l.overwritten ++ passed n l.stream.reliability stream.reliability })
    (hledger : LedgerAt (n + 1) (frontAfterSend n a) (frontAfterSend n f) l') :
    WindowKept (n + 1) (frontAfterSend n a) (frontAfterSend n f) l' := by
  have hle := h.ledger.ring.sent_le
  have hlength := h.length_le
  rw [if_pos hupdated] at hlength
  have hfront : frontAfterSend n f = f := if_neg (by omega)
  obtain ⟨htime, htimes⟩ := hsent.slotTime_eq
  obtain ⟨hnew, hsizes⟩ := hsent.slotSize_eq
  rw [hfront] at hledger ⊢
  subst hl'
  refine ⟨hledger, fun j hfj hj => ?_, ?_, fun j hfj hj => ?_, ?_, ?_, h.expired⟩
  · rcases Nat.lt_or_ge j n with hlt | hge
    · have hold := h.old j hfj hlt
      rw [if_pos hupdated] at hold
      dsimp only
      rw [htimes j hlt (by omega), if_neg Bool.false_ne_true]
      have hcast : ((n + 1 - 1 - j : Nat) : ℚ) = ((n - 1 - j : Nat) : ℚ) + 1 := by
        rw [show n + 1 - 1 - j = n - 1 - j + 1 by omega, Nat.cast_add, Nat.cast_one]
      rw [hcast]
      linarith
    · obtain rfl : j = n := by omega
      simp [htime]
  · right
    rcases Nat.lt_or_ge f n with hlt | hge
    · show slotTime stream.reliability (f % 35) ≤ _
      rw [htimes f hlt (by omega)]
      rcases h.young with rfl | hyoung
      · omega
      · exact hyoung
    · obtain rfl : f = n := by omega
      show slotTime stream.reliability (f % 35) ≤ _
      rw [htime]
      norm_num [kStreamReliabilityMaxRtt, rttEpsilon]
  · dsimp only
    rcases Nat.lt_or_ge j n with hlt | hge
    · rw [hsizes j hlt (by omega)]
      exact h.small j hfj hlt
    · obtain rfl : j = n := by omega
      rw [hnew]
      exact hsize
  · have hbound := bytesBetween_le h.small
    have hone : bytesBetween stream.reliability n (n + 1) = size := by
      simp [bytesBetween, hnew]
    have hsame : bytesBetween stream.reliability f n = bytesBetween l.stream.reliability f n :=
      bytesBetween_congr fun j hfj hj => hsizes j hj (by omega)
    dsimp only
    rw [hsent.sentBytes, h.sentBytes, bytesBetween_split _ hle (Nat.le_add_right n 1), hone, hsame,
      Nat.mod_eq_of_lt (by omega)]
  · dsimp only
    have hpassed : passed n l.stream.reliability stream.reliability = [] := by
      have hsame : stream.reliability.frontSent = l.stream.reliability.frontSent := by
        rw [hledger.ring.frontSent, h.ledger.ring.frontSent]
      simp [passed, window, hsame]
    rw [h.overwritten, hpassed]
    rfl

/-- **One step** of the timer or of a received packet. -/
theorem WindowKept.step (h : WindowKept n a f l) {act : ReliabilityAction} {n' a' f' : Nat}
    {l' : Ledger} (htimer : OnTimer l act) (hledger : LedgerAt n' a' f' l')
    (hmove : LedgerMove n a f l act n' a' f' l') : WindowKept n' a' f' l' := by
  cases hmove with
  | sent hsent => exact h.packetSent htimer.1 htimer.2 hsent rfl hledger
  | received hreceived =>
    have htime := hreceived.toSameRing.slotTime
    have hsize := hreceived.toSameRing.slotSize
    refine ⟨hledger, fun j hfj hj => ?_, h.young.imp_right fun hyoung => ?_, fun j hfj hj => ?_,
      ?_, h.overwritten, h.expired⟩
    · rw [htime]
      exact h.old j hfj hj
    · rw [htime]
      exact hyoung
    · rw [hsize]
      exact h.small j hfj hj
    · dsimp only
      rw [hreceived.sentBytes, h.sentBytes]
      exact (bytesBetween_congr fun j _ _ => hsize _).symm
  | idle hempty =>
    exact ⟨hledger, fun j hfj hj => absurd hj (by omega), h.young, h.small, h.sentBytes,
      h.overwritten, h.expired⟩
  | @updated dt stream a' f' hupdated =>
    have hle := hupdated.le
    have hle' := hledger.ring.sent_le
    have hroom := h.ledger.ring.room
    have hlength := h.length_le
    have hdt : (dt : ℚ) = 1 / 15 := htimer
    have htime : ∀ j, slotTime stream.reliability (j % 35) =
        slotTime l.stream.reliability (j % 35) + 1 / 15 := by
      intro j
      rw [← hdt]
      exact hupdated.slotTime_eq j
    have hsize : ∀ j, slotSize stream.reliability j = slotSize l.stream.reliability j :=
      hupdated.slotSize_eq
    refine ⟨hledger, fun j hfj hj => ?_, hupdated.sent_young, fun j hfj hj => ?_, ?_,
      h.overwritten, ?_⟩
    · have hold := h.old j (by omega) hj
      dsimp only
      rw [htime, if_pos rfl]
      have hmark : (0 : ℚ) ≤ if l.updated then 1 else 0 := by
        split <;> norm_num
      linarith
    · rw [hsize]
      exact h.small j (by omega) hj
    · have haged : bytesBetween (l.stream.reliability.aged dt) f f' =
          bytesBetween l.stream.reliability f f' :=
        bytesBetween_congr fun j _ _ => slotSize_aged ..
      have hbound := bytesBetween_le h.small
      have hsplit := bytesBetween_split l.stream.reliability hle hle'
      have hsame : bytesBetween stream.reliability f' n = bytesBetween l.stream.reliability f' n :=
        bytesBetween_congr fun j _ _ => hsize _
      dsimp only
      rw [hsame]
      refine hupdated.sentBytes _ ?_ ?_
      · show l.stream.reliability.sentBytes = _
        rw [haged, h.sentBytes, hsplit]
      · show l.stream.reliability.sentBytes < _
        rw [h.sentBytes]
        split at hlength <;> omega
    · simp only [List.length_append, List.length_map, List.length_range', h.expired]
      omega

theorem RingAt.bytesTo_eq {ref : StreamReliability} (h : RingAt n a f ref) {x : Nat} (hle : f ≤ x)
    (hx : x ≤ n) : ref.bytesTo (x % 35) = bytesBetween ref f x := by
  have h1 := h.acked_le
  have h3 := h.room
  unfold StreamReliability.bytesTo bytesBetween
  rw [h.frontSent, show window kStreamReliabilityBufferCapacity (f % 35) (x % 35) =
    (List.range' f (x - f)).map (· % 35) from window_mod (c := 35) hle (by omega), List.map_map]
  rfl

theorem WindowKept.accounted (h : WindowKept n a f l) : WindowAccounted l := by
  have hring := h.ledger.ring
  have h1 := hring.acked_le
  have h2 := hring.sent_le
  have h3 := hring.room
  refine ⟨?_, h.overwritten, ?_, fun l' hl' => ?_⟩
  · have hlength := h.length_le
    rw [hring.frontSent, hring.back]
    refine le_trans (le_of_eq (window_length (c := 35) h2 (by omega))) ?_
    omega
  · rw [hring.back, hring.bytesTo_eq h2 (le_refl n), h.sentBytes]
  · obtain ⟨n', a', f', l'', hl'', hledger, hmove⟩ := h.ledger.step (.update (1 / 15))
    rw [hl'] at hl''
    cases hl''
    have htimer : OnTimer l (.update (1 / 15)) := show ((1 / 15 : ℚ≥0) : ℚ) = 1 / 15 by norm_num
    have hkept := h.step htimer hledger hmove
    cases hmove with
    | idle hempty =>
      dsimp only
      rw [hring.frontSent, hring.bytesTo_eq (le_refl f) h2]
      simp [bytesBetween]
    | @updated dt stream a' f' hupdated =>
      have hle' := hledger.ring.sent_le
      rw [hkept.sentBytes, h.sentBytes, hledger.ring.frontSent, hring.bytesTo_eq hupdated.le hle',
        bytesBetween_split _ hupdated.le hle', Nat.add_comm]
      exact congrArg (· + _) (bytesBetween_congr fun j _ _ => (hupdated.slotSize_eq _).symm)

end Steps

theorem windowKept_run {address : NetAddr} {as : List ReliabilityAction} {l : Ledger}
    (hrun : run ledgerStep (.start address) as = some l)
    (htimer : Along ledgerStep OnTimer (.start address) as) : ∃ n a f, WindowKept n a f l :=
  ledger_along (fun h => h.ledger) (windowKept_start address)
    (fun h hact hledger hmove => h.step hact hledger hmove) hrun htimer

/-- **The sent window is accounted for** in every run of the timer, with any packets received; the
packets that left it without a mark are counted modulo `2 ^ 32`. -/
theorem sent_window_accounted {address : NetAddr} {as : List ReliabilityAction} {l : Ledger}
    (hrun : run ledgerStep (.start address) as = some l)
    (htimer : Along ledgerStep OnTimer (.start address) as) :
    WindowAccounted l ∧
      l.stream.reliability.totalLostPackets = l.lost.length % 2 ^ 32 := by
  obtain ⟨n, a, f, h⟩ := windowKept_run hrun htimer
  exact ⟨h.accounted, h.ledger.totalLostPackets⟩

/-- Two packets are sent, and the first is acked. -/
def twoTicks : List ReliabilityAction :=
  [.update (1 / 15), .packetSent 100, .update (1 / 15), .receive 0 0 1, .packetSent 200]

theorem sent_window_accounted_twoTicks : ∃ l,
    run ledgerStep (.start .zeroed) twoTicks = some l ∧ l.stream.reliability.sentBytes = 300 ∧
    WindowAccounted l ∧ l.stream.reliability.totalLostPackets = l.lost.length % 2 ^ 32 := by
  have hrun : (run ledgerStep (.start .zeroed) twoTicks).map
      (·.stream.reliability.sentBytes) = some 300 := by
    decide +kernel
  have htimer : Along ledgerStep OnTimer (.start .zeroed) twoTicks := by
    decide +kernel
  obtain ⟨l, hl, hbytes⟩ := Option.map_eq_some_iff.1 hrun
  exact ⟨l, hl, hbytes, sent_window_accounted hl htimer⟩

/-! ## A stream that is never acked -/

/-- `n` ticks that each send a byte. -/
def ticks : Nat → List ReliabilityAction
  | 0 => []
  | n + 1 => .update (1 / 15) :: .packetSent 1 :: ticks n

theorem ticks_onTimer (n : Nat) (l : Ledger) : Along ledgerStep OnTimer l (ticks n) := by
  induction n generalizing l with
  | zero => trivial
  | succ n ih =>
    refine ⟨show ((1 / 15 : ℚ≥0) : ℚ) = 1 / 15 by norm_num, fun l' hl' => ⟨⟨?_, by decide⟩,
      fun l'' _ => ih l''⟩⟩
    obtain ⟨stream, -, rfl⟩ := Option.map_eq_some_iff.1 hl'
    rfl

theorem ticks_sent (n : Nat) {l l' : Ledger} (h : run ledgerStep l (ticks n) = some l') :
    l'.sent = l.sent + n := by
  induction n generalizing l with
  | zero =>
    cases h
    rfl
  | succ n ih =>
    obtain ⟨l₁, h₁, h⟩ := run_cons_eq_some.1 h
    obtain ⟨l₂, h₂, h⟩ := run_cons_eq_some.1 h
    obtain ⟨_, -, rfl⟩ := Option.map_eq_some_iff.1 h₁
    obtain ⟨_, -, rfl⟩ := Option.map_eq_some_iff.1 h₂
    rw [ih h]
    dsimp only
    omega

/-- No packet has a mark, and none had one when it left the window. -/
structure Unheard (n a f : Nat) (l : Ledger) : Prop where
  ledger : LedgerAt n a f l
  unmarked : ∀ i, slotAcked l.stream.reliability i = false
  expired : ∀ e ∈ l.expired, e.2 = false

theorem unheard_start (address : NetAddr) : Unheard 0 0 0 (.start address) where
  ledger := ledgerAt_start address
  unmarked := fun i => by
    cases h : slotAcked (Ledger.start address).stream.reliability i with
    | false => rfl
    | true =>
      obtain ⟨p, hp, hacked⟩ := slotAcked_iff.1 h
      simp only [Ledger.start, streamCreate, streamReliabilityClear, StreamReliability.zeroed] at hp
      obtain ⟨hi, rfl⟩ := Vector.getElem?_eq_some_iff.1 hp
      simp at hacked
  expired := nofun

theorem Unheard.step {n a f n' a' f' : Nat} {l l' : Ledger} {act : ReliabilityAction}
    (h : Unheard n a f l) (hact : act = .update (1 / 15) ∨ act = .packetSent 1)
    (hledger : LedgerAt n' a' f' l') (hmove : LedgerMove n a f l act n' a' f' l') :
    Unheard n' a' f' l' := by
  cases hmove with
  | sent hsent =>
    refine ⟨hledger, fun i => ?_, h.expired⟩
    dsimp only
    rw [hsent.slotAcked_eq]
    split
    · rfl
    · exact h.unmarked i
  | received hreceived => rcases hact with hact | hact <;> cases hact
  | idle hempty => exact ⟨hledger, h.unmarked, h.expired⟩
  | updated hupdated =>
    refine ⟨hledger, fun i => ?_, fun e he => ?_⟩
    · dsimp only
      rw [hupdated.slotAcked_eq]
      exact h.unmarked i
    · rcases List.mem_append.1 he with he | he
      · exact h.expired e he
      · obtain ⟨j, -, rfl⟩ := List.mem_map.1 he
        exact h.unmarked _

theorem mem_ticks {n : Nat} {act : ReliabilityAction} (h : act ∈ ticks n) :
    act = .update (1 / 15) ∨ act = .packetSent 1 := by
  induction n with
  | zero => cases h
  | succ n ih =>
    rcases List.mem_cons.1 h with h | h
    · exact .inl h
    · rcases List.mem_cons.1 h with h | h
      · exact .inr h
      · exact ih h

/-- All but the last 16 packets are lost. -/
theorem ticks_lost {n : Nat} {l : Ledger} (h : run ledgerStep (.start .zeroed) (ticks n) = some l) :
    n ≤ l.lost.length + 16 := by
  have hunheard : ∃ n a f, Unheard n a f l :=
    ledger_along (fun h => h.ledger) (unheard_start .zeroed)
      (fun h hact hledger hmove => h.step hact hledger hmove) h
      (along_of_forall (fun _ _ hact => mem_ticks hact) _)
  obtain ⟨_, _, _, hunheard⟩ := hunheard
  have hlost : l.lost.length = l.expired.length := by
    rw [Ledger.lost, List.filter_eq_self.2 fun e he => by simp [hunheard.expired e he],
      List.length_map]
  obtain ⟨m, a, f, hkept⟩ := windowKept_run h (ticks_onTimer n _)
  have hsent := ticks_sent n h
  have hm := hkept.ledger.sent
  have hexpired := hkept.expired
  have hlength := hkept.length_le
  have hzero : (Ledger.start .zeroed).sent = 0 := rfl
  omega

/-- After `2 ^ 32 + 16` ticks without an ack, more packets are lost than an `unsigned int` counts. -/
theorem lost_packets_wrap : ¬ ∀ (as : List ReliabilityAction) (l : Ledger),
    run ledgerStep (.start .zeroed) as = some l →
    Along ledgerStep OnTimer (.start .zeroed) as →
    WindowAccounted l ∧ l.stream.reliability.totalLostPackets = l.lost.length := by
  intro hall
  obtain ⟨n, hn⟩ : ∃ n, n = 2 ^ 32 + 16 := ⟨_, rfl⟩
  obtain ⟨l, hl⟩ := ledger_run .zeroed (ticks n)
  have htimer := ticks_onTimer n (.start .zeroed)
  have hlost := ticks_lost hl
  obtain ⟨m, a, f, hkept⟩ := windowKept_run hl htimer
  have htotal := (hall _ l hl htimer).2
  rw [hkept.ledger.totalLostPackets] at htotal
  omega

end UniversalNetwork
