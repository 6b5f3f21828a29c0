import UniversalNetwork.StreamReliability.AckSlots

/-!
# The age of a sent packet

`streamReliabilityUpdate` first looks whether the sent window is empty and returns if so, before it
ages the packets. A packet leaves the sent window after a second and the acked window after two, so
when nothing is sent for a second, the packets that are still in the acked window get no older: they
stay in it until something is sent again (`packets_stop_ageing`).

`ages_elapsed`: in every run in which no update finds the sent window empty and the acked window
not, the age of a packet is the time since it was sent.
-/

namespace UniversalNetwork

open Lib

/-- The calls on a reliability state, with any arguments. -/
inductive ReliabilityCall
  | packetSent (size : Nat)
  | packetReceived (sequence ack : Nat) (ackBits : BitVec 32)
  | update (deltaTime : ℚ)

/-- A reliability state with the sum of the updates since each of its packets was sent, newest
first. -/
structure Timed where
  ref : StreamReliability
  elapsed : List ℚ

def timedStart : Timed := ⟨streamReliabilityClear .zeroed, []⟩

def timedStep (t : Timed) : ReliabilityCall → Option Timed
  | .packetSent size => do
    let ref ← streamReliabilityPacketSent t.ref size
    some ⟨ref, 0 :: t.elapsed⟩
  | .packetReceived sequence ack ackBits => do
    let ref ← streamReliabilityPacketReceived t.ref sequence ack ackBits
    some { t with ref }
  | .update deltaTime => do
    let ref ← streamReliabilityUpdate t.ref deltaTime
    some ⟨ref, t.elapsed.map (· + deltaTime)⟩

/-- Time does not run backwards, and it does not pass while the sent window is empty and the acked
window is not. -/
def NoPause (t : Timed) : ReliabilityCall → Prop
  | .update deltaTime => 0 ≤ deltaTime ∧
      (deltaTime = 0 ∨ t.ref.frontSent ≠ t.ref.back ∨ t.ref.frontAcked = t.ref.back)
  | _ => True

instance (t : Timed) : ∀ call : ReliabilityCall, Decidable (NoPause t call)
  | .packetSent _ => .isTrue trivial
  | .packetReceived _ _ _ => .isTrue trivial
  | .update _ => inferInstanceAs (Decidable (_ ∧ _))

/-- The age of each packet in the acked window is the time since it was sent, and at most two
seconds less the epsilon. -/
def AgesElapsed (t : Timed) : Prop :=
  ∀ d p, 1 ≤ d →
    d ≤ (window kStreamReliabilityBufferCapacity t.ref.frontAcked t.ref.back).length →
    t.ref.packets[t.ref.slotBehind d]? = some p →
    t.elapsed[d - 1]? = some p.time ∧ p.time ≤ kStreamReliabilityMaxRtt * 2 - rttEpsilon

/-! ## The invariant -/

/-- After `n` sends, with the acked window from position `a`. -/
structure TimedAt (n a f : Nat) (t : Timed) : Prop where
  ring : RingAt n a f t.ref
  elapsed : ∀ d, 1 ≤ d → a + d ≤ n → t.elapsed[d - 1]? = some (slotTime t.ref ((n - d) % 35))
  young : YoungAt (kStreamReliabilityMaxRtt * 2 - rttEpsilon) n a t.ref

theorem RingAt.slotTime_le {n a f i j : Nat} {ref : StreamReliability} (h : RingAt n a f ref)
    (hij : i ≤ j) (hj : j < n) (hi : n ≤ i + 35) : slotTime ref (j % 35) ≤ slotTime ref (i % 35) := by
  obtain ⟨p, hp, -⟩ := h.slot i (by omega) hi
  obtain ⟨q, hq, -⟩ := h.slot j hj (by omega)
  have := h.age i j p q hij hj hi hp hq
  simpa [slotTime, hp, hq] using this

theorem timedAt_start : TimedAt 0 0 0 timedStart where
  ring := ringAt_clear
  elapsed := fun d h1 hd => absurd hd (by omega)
  young := .inl rfl

section Steps

variable {n a f : Nat} {t t' : Timed}

theorem TimedAt.packetSent (h : TimedAt n a f t) {size : Nat}
    (hstep : timedStep t (.packetSent size) = some t') :
    TimedAt (n + 1) (frontAfterSend n a) (frontAfterSend n f) t' := by
  obtain ⟨ref, hsent, hstep⟩ := Option.bind_eq_some_iff.1 hstep
  cases hstep
  obtain ⟨ref', hsent', hring, hat⟩ := h.ring.packetSent size
  rw [hsent] at hsent'
  cases hsent'
  have h1 := h.ring.acked_le
  have h2 := h.ring.sent_le
  have h3 := h.ring.room
  obtain ⟨hnew, hold⟩ := hat.slotTime_eq
  have ha : frontAfterSend n a = a ∨ frontAfterSend n a = a + 1 ∧ a + 1 ≤ n := by
    unfold frontAfterSend
    split <;> omega
  refine ⟨hring, fun d hd1 hd => ?_, ?_⟩
  · rcases Nat.lt_or_ge 1 d with hd2 | hd2
    · obtain ⟨e, rfl⟩ : ∃ e, d = e + 1 := ⟨d - 1, by omega⟩
      have := h.elapsed e (by omega) (by omega)
      rw [show n + 1 - (e + 1) = n - e by omega, hold (n - e) (by omega) (by omega), ← this]
      obtain ⟨k, rfl⟩ : ∃ k, e = k + 1 := ⟨e - 1, by omega⟩
      simp
    · obtain rfl : d = 1 := by omega
      simp [hnew]
  · right
    rcases Nat.lt_or_ge (frontAfterSend n a) n with hlt | hge
    · show slotTime ref (frontAfterSend n a % 35) ≤ _
      rw [hold _ hlt (by omega)]
      have hfirst : slotTime t.ref (a % 35) ≤ kStreamReliabilityMaxRtt * 2 - rttEpsilon := by
        rcases h.young with hyoung | hyoung
        · omega
        · exact hyoung
      exact (h.ring.slotTime_le (by omega) hlt (by omega)).trans hfirst
    · show slotTime ref (frontAfterSend n a % 35) ≤ _
      rw [show frontAfterSend n a = n by omega, hnew]
      norm_num [kStreamReliabilityMaxRtt, rttEpsilon]

theorem TimedAt.packetReceived (h : TimedAt n a f t) {sequence ack : Nat} {ackBits : BitVec 32}
    (hstep : timedStep t (.packetReceived sequence ack ackBits) = some t') : TimedAt n a f t' := by
  obtain ⟨ref, hreceived, hstep⟩ := Option.bind_eq_some_iff.1 hstep
  cases hstep
  have hsame := packetReceived_sameRing hreceived
  refine ⟨h.ring.sameRing hsame, fun d hd1 hd => ?_, h.young.imp_right fun hyoung => ?_⟩
  · rw [hsame.slotTime]
    exact h.elapsed d hd1 hd
  · rw [hsame.slotTime]
    exact hyoung

theorem TimedAt.update (h : TimedAt n a f t) {dt : ℚ} (hpause : NoPause t (.update dt))
    (hstep : timedStep t (.update dt) = some t') : ∃ a' f', TimedAt n a' f' t' := by
  obtain ⟨ref, hupdate, hstep⟩ := Option.bind_eq_some_iff.1 hstep
  cases hstep
  obtain ⟨hdt, hpause⟩ := hpause
  have h1 := h.ring.acked_le
  have h3 := h.ring.room
  rcases h.ring.update hdt with ⟨rfl, hsame⟩ | ⟨a', f', ref', hupdate', hring, hat⟩
  · -- the sent window is empty: nothing got older
    rw [hsame] at hupdate
    cases hupdate
    refine ⟨a, f, h.ring, fun d hd1 hd => ?_, h.young⟩
    have hzero : dt = 0 := by
      rcases hpause with hzero | hsent | hacked
      · exact hzero
      · rw [h.ring.frontSent, h.ring.back] at hsent
        exact absurd rfl hsent
      · rw [h.ring.frontAcked, h.ring.back, cursor_eq_iff h1 (by omega)] at hacked
        omega
    have := h.elapsed d hd1 hd
    simp [hzero, this]
  · rw [hupdate'] at hupdate
    cases hupdate
    have htime := hat.slotTime_eq
    refine ⟨a', f', hring, fun d hd1 hd => ?_, hat.acked_young⟩
    have hle := hat.acked_le
    have := h.elapsed d hd1 (by omega)
    simp [htime, this]

theorem TimedAt.agesElapsed (h : TimedAt n a f t) : AgesElapsed t := by
  have h1 := h.ring.acked_le
  have h2 := h.ring.sent_le
  have h3 := h.ring.room
  intro d p hd1 hd hp
  have hlength : (window kStreamReliabilityBufferCapacity t.ref.frontAcked t.ref.back).length =
      n - a := by
    rw [h.ring.frontAcked, h.ring.back]
    exact window_length (c := 35) (by omega) (by omega)
  rw [hlength] at hd
  rw [h.ring.slotBehind_eq (by omega) (by omega)] at hp
  have htime : slotTime t.ref ((n - d) % 35) = p.time := by simp [slotTime, hp]
  refine ⟨htime ▸ h.elapsed d hd1 (by omega), ?_⟩
  have hfirst : slotTime t.ref (a % 35) ≤ kStreamReliabilityMaxRtt * 2 - rttEpsilon := by
    rcases h.young with hyoung | hyoung
    · omega
    · exact hyoung
  rw [← htime]
  exact (h.ring.slotTime_le (by omega) (by omega) (by omega)).trans hfirst

end Steps

/-- **Ages are elapsed time**: in every run whose updates find no pause. -/
theorem ages_elapsed {calls : List ReliabilityCall} {t : Timed}
    (hrun : run timedStep timedStart calls = some t)
    (hpause : Along timedStep NoPause timedStart calls) : AgesElapsed t := by
  have h : ∃ n a f, TimedAt n a f t := by
    refine run_along (P := fun t => ∃ n a f, TimedAt n a f t) ⟨0, 0, 0, timedAt_start⟩ ?_ hrun hpause
    rintro t call t' ⟨n, a, f, h⟩ hcall hstep
    cases call with
    | packetSent size => exact ⟨_, _, _, h.packetSent hstep⟩
    | packetReceived sequence ack ackBits => exact ⟨_, _, _, h.packetReceived hstep⟩
    | update deltaTime =>
      obtain ⟨a', f', h'⟩ := h.update hcall hstep
      exact ⟨n, a', f', h'⟩
  obtain ⟨n, a, f, h⟩ := h
  exact h.agesElapsed

/-- A packet, its ack and two updates with another packet between them. -/
def busy : List ReliabilityCall :=
  [.packetSent 100, .update (1 / 2), .packetReceived 0 0 1, .packetSent 100, .update 1]

theorem ages_elapsed_busy : ∃ t, run timedStep timedStart busy = some t ∧
    t.elapsed = [1, 3 / 2] ∧ AgesElapsed t := by
  have hrun : (run timedStep timedStart busy).map (·.elapsed) = some [1, 3 / 2] := by
    decide +kernel
  have hpause : Along timedStep NoPause timedStart busy := by
    decide +kernel
  obtain ⟨t, ht, helapsed⟩ := Option.map_eq_some_iff.1 hrun
  exact ⟨t, ht, helapsed, ages_elapsed ht hpause⟩

/-- After a second and a half the packet has left the sent window; after another second it is still
in the acked window, and not older. -/
theorem packets_stop_ageing : ¬ ∀ calls t, run timedStep timedStart calls = some t →
    AgesElapsed t := by
  intro hall
  have hrun : (run timedStep timedStart [.packetSent 100, .update (3 / 2), .update 1]).map
      (fun t => (t.elapsed, (window kStreamReliabilityBufferCapacity t.ref.frontAcked
        t.ref.back).length, t.ref.packets[t.ref.slotBehind 1]?)) =
      some ([5 / 2], 1, some ⟨0, 3 / 2, 100, false⟩) := by
    decide +kernel
  obtain ⟨t, ht, hvalues⟩ := Option.map_eq_some_iff.1 hrun
  simp only [Prod.mk.injEq] at hvalues
  obtain ⟨helapsed, hwindow, hpacket⟩ := hvalues
  have hage := (hall _ t ht 1 _ (by decide) (by omega) hpacket).1
  rw [helapsed] at hage
  norm_num at hage

end UniversalNetwork
