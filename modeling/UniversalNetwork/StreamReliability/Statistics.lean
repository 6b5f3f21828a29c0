import UniversalNetwork.StreamReliability.Ledger
import Mathlib.Data.List.Nodup
import Mathlib.Data.List.Perm.Subperm

/-!
# How packets are counted

A packet without a mark is counted as lost when it expires, but it stays in the ring, and an ack that
comes later still marks it and counts it as acked (`late_ack_counted`). And a scan may go further
back than the first packet: a bit for a slot that was never written counts as an ack too.

`packets_counted_once`: in every run in which no ack does either, each packet is counted at most
once, and the acked and lost packets together are at most those sent.
-/

namespace UniversalNetwork

open Lib

/-- The slot was never written, or its packet has expired. -/
def Ledger.Late (l : Ledger) (i : Nat) : Prop :=
  l.stream.reliability.packetNumber l.sent i = none ∨
    l.stream.reliability.packetNumber l.sent i ∈ l.expired.map (·.1)

instance (l : Ledger) (i : Nat) : Decidable (l.Late i) := inferInstanceAs (Decidable (_ ∨ _))

/-- An ack sets the mark of no late slot: bit `k` is for the slot `k` behind the first of the scan. -/
def NotLate (l : Ledger) : ReliabilityAction → Prop
  | .receive _ ack ackBits => ack ≤ l.stream.reliability.sequence →
      ∀ first ∈ scanStart l.stream.reliability ack, ∀ k < 31, ackBits.getLsbD k = true →
        slotAcked l.stream.reliability ((first + 34 * k) % 35) = false →
        ¬ l.Late ((first + 34 * k) % 35)
  | _ => True

instance (l : Ledger) : ∀ act : ReliabilityAction, Decidable (NotLate l act)
  | .packetSent _ => .isTrue trivial
  | .receive _ ack ackBits => inferInstanceAs (Decidable (ack ≤ l.stream.reliability.sequence →
      ∀ first ∈ scanStart l.stream.reliability ack, ∀ k < 31, ackBits.getLsbD k = true →
        slotAcked l.stream.reliability ((first + 34 * k) % 35) = false →
        ¬ l.Late ((first + 34 * k) % 35)))
  | .update _ => .isTrue trivial

/-! ## The invariant -/

/-- No packet is booked twice. -/
structure CountedOnce (n a f : Nat) (l : Ledger) : Prop where
  ledger : LedgerAt n a f l
  acked_sent : ∀ o ∈ l.acked, ∃ j < n, o = some j
  expired_before : ∀ o ∈ l.expired.map (·.1), ∃ j < f, o = some j
  acked_nodup : l.acked.Nodup
  expired_nodup : (l.expired.map (·.1)).Nodup
  unmarked : ∀ j < n, n ≤ j + 35 → slotAcked l.stream.reliability (j % 35) = false →
    some j ∉ l.acked
  lost_unacked : ∀ o ∈ l.lost, o ∉ l.acked

theorem countedOnce_start (address : NetAddr) : CountedOnce 0 0 0 (.start address) where
  ledger := ledgerAt_start address
  acked_sent := nofun
  expired_before := nofun
  acked_nodup := .nil
  expired_nodup := .nil
  unmarked := nofun
  lost_unacked := nofun

theorem lost_subset (l : Ledger) : l.lost ⊆ l.expired.map (·.1) :=
  List.map_subset _ (List.filter_subset_self _)

theorem frontAfterSend_ge (n x : Nat) : x ≤ frontAfterSend n x := by
  unfold frontAfterSend
  split <;> omega

section Steps

variable {n a f : Nat} {l : Ledger}

/-- The packets an ack marks were sent, have not expired and were not acked before. -/
theorem CountedOnce.marked (h : CountedOnce n a f l) {sequence ack : Nat} {ackBits : BitVec 32}
    {ref : StreamReliability} (hlate : NotLate l (.receive sequence ack ackBits))
    (hreceived : Received ack ackBits l.stream.reliability ref) {i : Nat}
    (hi : i ∈ newlyAcked l.stream.reliability ref) :
    ∃ j < n, n ≤ j + 35 ∧ i = j % 35 ∧ l.stream.reliability.packetNumber n i = some j ∧
      slotAcked l.stream.reliability (j % 35) = false ∧ some j ∉ l.expired.map (·.1) := by
  obtain ⟨hlt, -, hold⟩ := mem_newlyAcked.1 hi
  obtain ⟨hack, first, hfirst, k, hk, rfl, hbit⟩ := hreceived.scanned i hi
  have hcase := hlate hack first hfirst k hk hbit hold
  rw [Ledger.Late, h.ledger.sent, not_or] at hcase
  obtain ⟨j, hj⟩ := Option.ne_none_iff_exists'.1 hcase.1
  obtain ⟨hjn, hr, hslot⟩ := h.ledger.ring.packetNumber_eq_some hlt hj
  exact ⟨j, hjn, hr, hslot, hj, hslot ▸ hold, hj ▸ hcase.2⟩

theorem CountedOnce.step (h : CountedOnce n a f l) {act : ReliabilityAction} {n' a' f' : Nat}
    {l' : Ledger} (hlate : NotLate l act) (hledger : LedgerAt n' a' f' l')
    (hmove : LedgerMove n a f l act n' a' f' l') : CountedOnce n' a' f' l' := by
  cases hmove with
  | sent hsent =>
    refine ⟨hledger, fun o ho => ?_, fun o ho => ?_, h.acked_nodup, h.expired_nodup,
      fun j hj hr hmark => ?_, h.lost_unacked⟩
    · obtain ⟨j, hj, rfl⟩ := h.acked_sent o ho
      exact ⟨j, by omega, rfl⟩
    · obtain ⟨j, hj, rfl⟩ := h.expired_before o ho
      exact ⟨j, Nat.lt_of_lt_of_le hj (frontAfterSend_ge n f), rfl⟩
    · rcases Nat.lt_or_ge j n with hlt | hge
      · rw [hsent.slotAcked_eq, if_neg (by omega)] at hmark
        exact h.unmarked j hlt (by omega) hmark
      · -- the packet just sent
        intro hmem
        obtain ⟨i, hi, heq⟩ := h.acked_sent _ hmem
        cases heq
        omega
  | @received sequence ack ackBits stream hreceived =>
    have hmarked := fun i => h.marked (i := i) hlate hreceived
    have hnew : ∀ o ∈ (newlyAcked l.stream.reliability stream.reliability).map
        (l.stream.reliability.packetNumber n), ∃ j < n, o = some j ∧ n ≤ j + 35 ∧
          slotAcked l.stream.reliability (j % 35) = false ∧ some j ∉ l.expired.map (·.1) := by
      intro o ho
      obtain ⟨i, hi, rfl⟩ := List.mem_map.1 ho
      obtain ⟨j, hj, hr, -, hnumber, hold, hexpired⟩ := hmarked i hi
      exact ⟨j, hj, hnumber, hr, hold, hexpired⟩
    refine ⟨hledger, fun o ho => ?_, h.expired_before, ?_, h.expired_nodup,
      fun j hj hr hmark hmem => ?_, fun o ho hmem => ?_⟩
    · rcases List.mem_append.1 ho with ho | ho
      · exact h.acked_sent o ho
      · obtain ⟨j, hj, hnumber, -⟩ := hnew o ho
        exact ⟨j, hj, hnumber⟩
    · refine h.acked_nodup.append ?_ fun o hold ho => ?_
      · refine List.Nodup.map_on (fun i hi k hk heq => ?_) (List.nodup_range.filter _)
        obtain ⟨j, -, -, hslot, hj, -⟩ := hmarked i hi
        obtain ⟨j', -, -, hslot', hj', -⟩ := hmarked k hk
        rw [hj, hj'] at heq
        cases heq
        rw [hslot, hslot']
      · obtain ⟨j, hj, rfl, hr, hmark, -⟩ := hnew o ho
        exact h.unmarked j hj hr hmark hold
    · rcases List.mem_append.1 hmem with hmem | hmem
      · cases hold : slotAcked l.stream.reliability (j % 35) with
        | false => exact h.unmarked j hj hr hold hmem
        | true =>
          rw [hreceived.marks _ hold] at hmark
          cases hmark
      · obtain ⟨i, hi, hnumber⟩ := List.mem_map.1 hmem
        obtain ⟨-, hset, -⟩ := mem_newlyAcked.1 hi
        obtain ⟨j', -, -, hslot, hj', -⟩ := hmarked i hi
        rw [hj'] at hnumber
        cases hnumber
        rw [← hslot, hset] at hmark
        cases hmark
    · rcases List.mem_append.1 hmem with hmem | hmem
      · exact h.lost_unacked o ho hmem
      · obtain ⟨j, -, rfl, -, -, hexpired⟩ := hnew o hmem
        exact hexpired (lost_subset l ho)
  | idle hempty => exact ⟨hledger, h.acked_sent, h.expired_before, h.acked_nodup, h.expired_nodup,
      h.unmarked, h.lost_unacked⟩
  | updated hupdated =>
    have hle := hupdated.le
    have hnumbers : (l.expired ++ (List.range' f (f' - f)).map fun j =>
        (some j, slotAcked l.stream.reliability (j % 35))).map (·.1) =
          l.expired.map (·.1) ++ (List.range' f (f' - f)).map some := by
      simp
    have h2 := hledger.ring.sent_le
    have h1 := h.ledger.ring.acked_le
    have h3 := h.ledger.ring.room
    refine ⟨hledger, h.acked_sent, fun o ho => ?_, h.acked_nodup, ?_, fun j hj hr hmark => ?_,
      fun o ho => ?_⟩
    · rw [hnumbers] at ho
      rcases List.mem_append.1 ho with ho | ho
      · obtain ⟨j, hj, rfl⟩ := h.expired_before o ho
        exact ⟨j, by omega, rfl⟩
      · obtain ⟨j, hj, rfl⟩ := List.mem_map.1 ho
        rw [List.mem_range'_1] at hj
        exact ⟨j, by omega, rfl⟩
    · rw [hnumbers]
      refine h.expired_nodup.append
        (List.Nodup.map (Option.some_injective Nat) (List.nodup_range' 1)) fun o hold ho => ?_
      obtain ⟨j, hj, rfl⟩ := h.expired_before o hold
      obtain ⟨j', hj', heq⟩ := List.mem_map.1 ho
      cases heq
      rw [List.mem_range'_1] at hj'
      omega
    · rw [hupdated.slotAcked_eq] at hmark
      exact h.unmarked j hj hr hmark
    · rw [lost_expired (l := l) rfl] at ho
      rcases List.mem_append.1 ho with ho | ho
      · exact h.lost_unacked o ho
      · obtain ⟨j, hj, rfl⟩ := List.mem_map.1 ho
        simp only [unmarkedBetween, List.mem_filter, List.mem_range'_1, Bool.not_eq_true'] at hj
        exact h.unmarked j (by omega) (by omega) hj.2

theorem CountedOnce.booked_nodup (h : CountedOnce n a f l) : (l.acked ++ l.lost).Nodup := by
  have hlost : l.lost.Nodup :=
    h.expired_nodup.sublist (List.filter_sublist.map _)
  exact h.acked_nodup.append hlost fun o hacked ho => h.lost_unacked o ho hacked

theorem CountedOnce.booked_sent (h : CountedOnce n a f l) :
    ∀ o ∈ l.acked ++ l.lost, ∃ j < n, o = some j := by
  intro o ho
  rcases List.mem_append.1 ho with ho | ho
  · exact h.acked_sent o ho
  · obtain ⟨j, hj, rfl⟩ := h.expired_before o (lost_subset l ho)
    exact ⟨j, Nat.lt_of_lt_of_le hj h.ledger.ring.sent_le, rfl⟩

theorem CountedOnce.booked_le (h : CountedOnce n a f l) : l.acked.length + l.lost.length ≤ n := by
  have hsubset : l.acked ++ l.lost ⊆ (List.range n).map some := by
    intro o ho
    obtain ⟨j, hj, rfl⟩ := h.booked_sent o ho
    exact List.mem_map_of_mem (List.mem_range.2 hj)
  have hlength := (List.subperm_of_subset h.booked_nodup hsubset).length_le
  simpa using hlength

end Steps

/-- **Each packet is counted at most once**: in every run in which no ack marks a late slot. -/
theorem packets_counted_once {address : NetAddr} {as : List ReliabilityAction} {l : Ledger}
    (hrun : run ledgerStep (.start address) as = some l)
    (hlate : Along ledgerStep NotLate (.start address) as) (hsent : l.sent < 2 ^ 32) :
    (l.acked ++ l.lost).Nodup ∧ (∀ o ∈ l.acked ++ l.lost, ∃ j < l.sent, o = some j) ∧
    l.stream.reliability.totalAckedPackets = l.acked.length ∧
    l.stream.reliability.totalLostPackets = l.lost.length ∧
    l.stream.reliability.totalAckedPackets + l.stream.reliability.totalLostPackets ≤
      l.stream.reliability.totalSentPackets := by
  obtain ⟨n, a, f, h⟩ := ledger_along (fun h => h.ledger) (countedOnce_start address)
    (fun h hact hledger hmove => h.step hact hledger hmove) hrun hlate
  have hle := h.booked_le
  rw [h.ledger.sent] at hsent ⊢
  have hacked := h.ledger.totalAckedPackets
  have hlost := h.ledger.totalLostPackets
  have htotal := h.ledger.totalSentPackets
  rw [Nat.mod_eq_of_lt (by omega)] at hacked hlost htotal
  exact ⟨h.booked_nodup, h.booked_sent, hacked, hlost, by omega⟩

/-- Two packets are sent, the first is acked in time and the second never. -/
def oneLost : List ReliabilityAction :=
  [.packetSent 100, .packetSent 100, .update (1 / 2), .receive 0 0 1, .update 1]

theorem packets_counted_once_oneLost : ∃ l, run ledgerStep (.start .zeroed) oneLost = some l ∧
    l.acked = [some 0] ∧ l.lost = [some 1] ∧
    l.stream.reliability.totalAckedPackets + l.stream.reliability.totalLostPackets ≤
      l.stream.reliability.totalSentPackets := by
  have hrun : (run ledgerStep (.start .zeroed) oneLost).map (fun l => (l.sent, l.acked, l.lost)) =
      some (2, [some 0], [some 1]) := by
    decide +kernel
  have hlate : Along ledgerStep NotLate (.start .zeroed) oneLost := by
    decide +kernel
  obtain ⟨l, hl, hvalues⟩ := Option.map_eq_some_iff.1 hrun
  simp only [Prod.mk.injEq] at hvalues
  obtain ⟨hsent, hacked, hlost⟩ := hvalues
  exact ⟨l, hl, hacked, hlost, (packets_counted_once hl hlate (by omega)).2.2.2.2⟩

/-- The ack of a packet that was counted as lost counts it as acked too, and of two packets three
are counted. -/
theorem late_ack_counted : ¬ ∀ (as : List ReliabilityAction) (l : Ledger),
    run ledgerStep (.start .zeroed) as = some l → l.sent < 2 ^ 32 →
    (∀ j, (l.acked ++ l.lost).count (some j) ≤ 1) ∧
    l.stream.reliability.totalAckedPackets + l.stream.reliability.totalLostPackets ≤
      l.stream.reliability.totalSentPackets := by
  intro hall
  have hrun : (run ledgerStep (.start .zeroed)
      [.packetSent 100, .update (3 / 2), .packetSent 100, .receive 0 1 3]).map
        (fun l => (l.sent, l.stream.reliability.totalAckedPackets,
          l.stream.reliability.totalLostPackets, l.stream.reliability.totalSentPackets)) =
      some (2, 2, 1, 2) := by
    decide +kernel
  obtain ⟨l, hl, hvalues⟩ := Option.map_eq_some_iff.1 hrun
  simp only [Prod.mk.injEq] at hvalues
  obtain ⟨hsent, hacked, hlost, htotal⟩ := hvalues
  have hle := (hall _ l hl (by omega)).2
  omega

end UniversalNetwork
