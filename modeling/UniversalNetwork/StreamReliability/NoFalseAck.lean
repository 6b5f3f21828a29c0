import UniversalNetwork.StreamReliability.Receiver
import UniversalNetwork.StreamReliability.RingInvariant
import Mathlib.Logic.Function.Basic

/-!
# Two stream endpoints over an unreliable network

Two peers send packets that carry their sequence, ack and bit field; the network delivers any
packet that was sent, any number of times, in any order, or never (`linkStep`).

The scan of `streamReliabilityProcessAck` covers 31 slots of a ring of 35, and it may start 34
slots behind `back`, so it can run past the oldest packet into the newest ones: a bit for a packet
that has left the ring then marks a packet the other side may never have seen
(`link_false_ack`). As long as no delivery does that (`NoAlias`), a marked packet was received
(`link_acks_honest`).
-/

namespace UniversalNetwork

open Lib

/-! ## The system -/

/-- What a stream packet says about the reliability state of its sender. -/
structure StreamHeader where
  sequence : Nat
  ack : Nat
  ackBits : BitVec 32
deriving DecidableEq, Repr

/-- A reliability endpoint with the packets it sent, oldest first, and the sequences it received,
newest first. -/
structure Peer where
  rel : StreamReliability
  outbox : List StreamHeader
  received : List Nat

/-- The two sides. -/
abbrev Link := Bool → Peer

def linkStart : Link := fun _ => ⟨streamReliabilityClear .zeroed, [], []⟩

inductive LinkAction
  /-- Side `x` sends its current header and records the packet. -/
  | send (x : Bool) (size : Nat)
  /-- The `i`-th packet of the other side reaches side `x`. -/
  | deliver (x : Bool) (i : Nat)

def linkStep (s : Link) : LinkAction → Option Link
  | .send x size => do
    let header : StreamHeader := ⟨(s x).rel.sequence, (s x).rel.ack, (s x).rel.ackBits⟩
    let rel ← streamReliabilityPacketSent (s x).rel size
    some (Function.update s x { s x with rel, outbox := (s x).outbox ++ [header] })
  | .deliver x i =>
    match (s !x).outbox[i]? with
    | none => some s
    | some h => do
      let rel ← streamReliabilityPacketReceived (s x).rel h.sequence h.ack h.ackBits
      some (Function.update s x { s x with rel, received := h.sequence :: (s x).received })

/-- The number of packets is short of a sequence wrap on both sides. -/
def Short (s : Link) : Prop := ∀ x, (s x).outbox.length < 65535

/-- Every packet still in the ring that is marked as acked was received by the other side. -/
def AcksHonest (s : Link) : Prop :=
  ∀ x d p, 1 ≤ d → d ≤ min 35 (s x).outbox.length →
    (s x).rel.packets[((s x).rel.back + 35 - d) % 35]? = some p → p.acked = true →
    p.sequence ∈ (s !x).received

/-- A delivery that acks one of the last 34 packets reports none older than the last 35. -/
def NoAlias (s : Link) : LinkAction → Prop
  | .send _ _ => True
  | .deliver x i => ∀ h ∈ (s !x).outbox[i]?, (s x).rel.sequence < h.ack + 35 →
      ∀ k < 31, h.ackBits.getLsbD k = true → (s x).rel.sequence + k ≤ h.ack + 35

instance (s : Link) : ∀ act : LinkAction, Decidable (NoAlias s act)
  | .send _ _ => .isTrue trivial
  | .deliver _ _ => inferInstanceAs (Decidable (∀ h ∈ _, _ → ∀ k < 31, _ → _))

/-! ## The run that goes wrong -/

/-- The peer gets packets 0 and 2 and acks them; the ack arrives 34 packets later. -/
def staleAckRun : List LinkAction :=
  List.replicate 3 (.send false 0) ++ [.deliver true 0, .deliver true 2, .send true 0] ++
    List.replicate 33 (.send false 0) ++ [.deliver false 0]

/-- Bit 2, for packet 0, marks the newest packet, 35, which was never received. -/
theorem link_false_ack :
    ¬ ∀ as s, run linkStep linkStart as = some s → Short s → AcksHonest s := by
  intro hall
  obtain ⟨s, hs⟩ : ∃ s, run linkStep linkStart staleAckRun = some s :=
    Option.isSome_iff_exists.1 (by decide +kernel)
  have hlen : (run linkStep linkStart staleAckRun).all
      (fun s => (s false).outbox.length == 36 && (s true).outbox.length == 1) = true := by
    decide +kernel
  have hslot : (run linkStep linkStart staleAckRun).bind (fun s =>
      (s false).rel.packets[((s false).rel.back + 35 - 1) % 35]?) =
        some ⟨35, 0, 0, true⟩ := by
    decide +kernel
  have hrec : (run linkStep linkStart staleAckRun).map (fun s => (s true).received) =
      some [2, 0] := by
    decide +kernel
  rw [hs] at hlen hslot hrec
  simp only [Option.all_some, Bool.and_eq_true, beq_iff_eq, Option.bind_some, Option.map_some,
    Option.some.injEq] at hlen hslot hrec
  have hshort : Short s := by
    intro x
    cases x
    · omega
    · omega
  have hmem := hall staleAckRun s hs hshort false 1 _ (by decide) (by rw [hlen.1]; decide) hslot rfl
  simp [hrec] at hmem

/-! ## The invariant -/

/-- An ack and its field only speak of sequences in `R`, modulo 65536. -/
structure AckSound (ack : Nat) (ackBits : BitVec 32) (R : List Nat) : Prop where
  last : ack = 0 ∨ ack ∈ R
  bits : ∀ k < 32, ackBits.getLsbD k = true → (ack + 65536 - k) % 65536 ∈ R

theorem AckSound.mono {ack : Nat} {ackBits : BitVec 32} {R R' : List Nat}
    (h : AckSound ack ackBits R) (hR : R ⊆ R') : AckSound ack ackBits R' :=
  ⟨h.last.imp_right (hR ·), fun k hk hb => hR (h.bits k hk hb)⟩

/-- Processing a sequence keeps the ack sound for the sequences received, that one included. -/
theorem AckSound.processSequence {ref : StreamReliability} {R : List Nat}
    (h : AckSound ref.ack ref.ackBits R) (hR : ∀ r ∈ R, r < 65536) {s : Nat} (hs : s < 65536) :
    AckSound (streamReliabilityProcessSequence ref s).ack
      (streamReliabilityProcessSequence ref s).ackBits (s :: R) := by
  have ha : ref.ack < 65536 := h.last.elim (fun h0 => by omega) (hR _)
  rcases processSequence_cases ref hs ha with ⟨n, hn1, -, hns, hp⟩ | ⟨n, -, hns, hp⟩
  · rw [hp]
    refine ⟨.inr (.head _), fun k hk hb => ?_⟩
    dsimp only at hb ⊢
    split at hb
    · rcases (getLsbD_shift_or_one _ hk).1 hb with rfl | ⟨hnk, hb⟩
      · rw [show (s + 65536 - 0) % 65536 = s by omega]
        exact .head _
      · have hm := h.bits (k - n) (by omega) hb
        rw [show (ref.ack + 65536 - (k - n)) % 65536 = (s + 65536 - k) % 65536 by omega] at hm
        exact .tail _ hm
    · simp at hb
  · rw [hp]
    refine ⟨h.last.imp_right (.tail _), fun k hk hb => ?_⟩
    dsimp only at hb ⊢
    split at hb
    · rcases (getLsbD_or_one_shift _ hk).1 hb with hb | rfl
      · exact .tail _ (h.bits k hk hb)
      · rw [show (ref.ack + 65536 - k) % 65536 = s by omega]
        exact .head _
    · exact .tail _ (h.bits k hk hb)

/-- What holds of a side against the other one. -/
structure PeerInv (me other : Peer) : Prop where
  ring : ∃ a f, RingAt me.outbox.length a f me.rel
  numbered : ∀ (i : Nat) (h : StreamHeader), me.outbox[i]? = some h → h.sequence = i
  received_lt : ∀ r ∈ me.received, r < other.outbox.length
  current : AckSound me.rel.ack me.rel.ackBits me.received
  headers : ∀ h ∈ me.outbox, AckSound h.ack h.ackBits me.received
  acked : ∀ (i : Nat) (p : StreamPacketMetadata), me.rel.packets[i]? = some p →
    p.acked = true → p.sequence ∈ other.received

theorem PeerInv.start (x : Bool) : PeerInv (linkStart x) (linkStart !x) where
  ring := ⟨0, 0, ringAt_clear⟩
  numbered := fun i h hi => by simp [linkStart] at hi
  received_lt := fun r hr => by simp [linkStart] at hr
  current := ⟨.inl rfl, fun k _ hb => by
    simp [linkStart, streamReliabilityClear, StreamReliability.zeroed] at hb⟩
  headers := fun h hm => by simp [linkStart] at hm
  acked := fun i p hp ha => by
    simp only [linkStart, streamReliabilityClear, StreamReliability.zeroed] at hp
    rw [Vector.getElem?_eq_some_iff] at hp
    obtain ⟨hi, rfl⟩ := hp
    simp at ha

theorem RingAt.sequence_eq {n a f : Nat} {ref : StreamReliability} (h : RingAt n a f ref)
    (hn : n < 65535) : ref.sequence = n := by
  rw [h.sequence, Nat.mod_eq_of_lt hn]

/-- A send. -/
theorem PeerInv.send {me other : Peer} (h : PeerInv me other) (hn : me.outbox.length < 65535)
    {size : Nat} {rel : StreamReliability}
    (hs : streamReliabilityPacketSent me.rel size = some rel) :
    PeerInv { me with rel, outbox := me.outbox ++ [⟨me.rel.sequence, me.rel.ack, me.rel.ackBits⟩] }
      other := by
  obtain ⟨a, f, hr⟩ := h.ring
  obtain ⟨r, hr', hi, hsent⟩ := hr.packetSent size
  rw [hs] at hr'
  cases hr'
  refine ⟨⟨_, _, by simpa using hi⟩, fun i hd hi => ?_, h.received_lt, ?_, fun hd hm => ?_,
    fun i p hp ha => ?_⟩
  · rw [List.getElem?_append] at hi
    split at hi
    · exact h.numbered i hd hi
    · rw [List.getElem?_singleton] at hi
      split at hi
      · cases hi
        have := hr.sequence_eq hn
        dsimp only
        omega
      · cases hi
  · show AckSound rel.ack rel.ackBits me.received
    rw [hsent.ack, hsent.ackBits]
    exact h.current
  · rcases List.mem_append.1 hm with hm | hm
    · exact h.headers hd hm
    · rw [List.mem_singleton.1 hm]
      exact h.current
  · rcases eq_or_ne i (me.outbox.length % 35) with rfl | hne
    · rw [store_get_self hsent.slot] at hp
      cases hp
      cases ha
    · rw [store_get_ne hsent.slot hne] at hp
      exact h.acked i p hp ha

/-- The other side's view of a send. -/
theorem PeerInv.other_sends {me other : Peer} (h : PeerInv me other) {other' : Peer}
    (hl : other.outbox.length ≤ other'.outbox.length) (hr : other'.received = other.received) :
    PeerInv me other' :=
  ⟨h.ring, h.numbered, fun r hm => Nat.lt_of_lt_of_le (h.received_lt r hm) hl, h.current,
    h.headers, fun i p hp ha => hr ▸ h.acked i p hp ha⟩

/-- The other side's view of a delivery. -/
theorem PeerInv.other_receives {me other : Peer} (h : PeerInv me other) {other' : Peer}
    (ho : other'.outbox = other.outbox) (hr : other.received ⊆ other'.received) :
    PeerInv me other' :=
  ⟨h.ring, h.numbered, fun r hm => ho ▸ h.received_lt r hm, h.current, h.headers,
    fun i p hp ha => hr (h.acked i p hp ha)⟩

/-- The marks a delivered ack makes are of packets the other side has received: the slot `k`
behind the ack's is still that of the packet `k` before it. -/
theorem PeerInv.marks {me other : Peer} (h : PeerInv me other)
    (hn : me.outbox.length < 65535) (hrec : ∀ r ∈ other.received, r < me.outbox.length)
    {ack : Nat} {ackBits : BitVec 32} (hsound : AckSound ack ackBits other.received)
    (hok : me.rel.sequence < ack + 35 → ∀ k < 31, ackBits.getLsbD k = true →
      me.rel.sequence + k ≤ ack + 35)
    {ref rel : StreamReliability} (hsame : SameRing me.rel ref)
    (hmarks : ∀ i, AckedAt ref i ↔ AckedAt me.rel i)
    (hp : streamReliabilityProcessAck ref ack ackBits = some rel) :
    ∀ (i : Nat) (p : StreamPacketMetadata), rel.packets[i]? = some p → p.acked = true →
      p.sequence ∈ other.received := by
  obtain ⟨a, f, hr⟩ := h.ring
  have hseq := hr.sequence_eq hn
  have hle : ack ≤ ref.sequence := by
    rw [hsame.sequence, hseq]
    rcases hsound.last with h0 | hm
    · omega
    · exact le_of_lt (hrec _ hm)
  obtain ⟨r, hr', hs', hk⟩ := (hr.sameRing hsame).processAck hle ackBits
  rw [hp] at hr'
  cases hr'
  intro i p hpi ha
  obtain ⟨q, hq, hpq, -⟩ := (hsame.trans hs'.toSameRing).get hpi
  rw [hpq]
  rcases (hk i).1 ⟨p, hpi, ha⟩ with hold | ⟨⟨-, hgt, hlt⟩, k, hk31, rfl, hb⟩
  · obtain ⟨q', hq', ha'⟩ := (hmarks i).1 hold
    rw [hq] at hq'
    cases hq'
    exact h.acked i q hq ha'
  · rw [hsame.sequence, hseq] at hlt hgt hq
    rw [hseq] at hok
    have hfar := hok hlt k hk31 hb
    have hm := hsound.bits k (by omega) hb
    have hbound := hrec _ hm
    -- the reported sequence is `ack - k`, without a wrap
    have hka : k ≤ ack := by omega
    rw [show (ack + 65536 - k) % 65536 = ack - k by omega] at hm
    obtain ⟨q', hq', hqs⟩ := hr.slot (ack - k) (by omega) (by omega)
    rw [show (me.outbox.length + 35 - (me.outbox.length - ack) + 34 * k) % 35 = (ack - k) % 35 by
      omega, hq'] at hq
    cases hq
    rw [hqs, Nat.mod_eq_of_lt (by omega)]
    exact hm

/-- A delivery. -/
theorem PeerInv.deliver {me other : Peer} (h : PeerInv me other) (h' : PeerInv other me)
    (hn : me.outbox.length < 65535) (hn' : other.outbox.length < 65535) {i : Nat}
    {hd : StreamHeader} (hi : other.outbox[i]? = some hd)
    (hok : me.rel.sequence < hd.ack + 35 → ∀ k < 31, hd.ackBits.getLsbD k = true →
      me.rel.sequence + k ≤ hd.ack + 35) {rel : StreamReliability}
    (hp : streamReliabilityPacketReceived me.rel hd.sequence hd.ack hd.ackBits = some rel) :
    PeerInv { me with rel, received := hd.sequence :: me.received } other := by
  have hil : i < other.outbox.length := (List.getElem?_eq_some_iff.1 hi).1
  have hseq := h'.numbered i hd hi
  have hsound := h'.headers hd (List.mem_of_getElem? hi)
  obtain ⟨a, f, hr⟩ := h.ring
  have hsame := processSequence_sameRing me.rel hd.sequence
  have hcur := h.current.processSequence
    (fun r hm => lt_trans (h.received_lt r hm) (by omega)) (s := hd.sequence) (by omega)
  unfold streamReliabilityPacketReceived at hp
  simp only [Option.bind_eq_bind, Option.bind_eq_some_iff, Option.some.injEq] at hp
  obtain ⟨r, hr₁, rfl⟩ := hp
  have hle : hd.ack ≤ (streamReliabilityProcessSequence me.rel hd.sequence).sequence := by
    rw [hsame.sequence, hr.sequence_eq hn]
    rcases hsound.last with h0 | hm
    · omega
    · exact le_of_lt (h'.received_lt _ hm)
  obtain ⟨r', hr₂, hs', -⟩ := (hr.sameRing hsame).processAck hle hd.ackBits
  rw [hr₁] at hr₂
  cases hr₂
  have hmarks : ∀ i, AckedAt (streamReliabilityProcessSequence me.rel hd.sequence) i ↔
      AckedAt me.rel i := by
    intro i
    unfold AckedAt streamReliabilityProcessSequence
    split <;> rfl
  refine ⟨⟨a, f, (hr.sameRing hsame).sameRing ⟨hs'.back, hs'.sequence, hs'.frontAcked,
    hs'.frontSent, hs'.totalSentPackets, hs'.totalLostPackets, hs'.sentBytes, hs'.slot⟩⟩,
    h.numbered, fun x hx => ?_, ?_, fun x hx => ?_, ?_⟩
  · rcases List.mem_cons.1 hx with rfl | hx
    · omega
    · exact h.received_lt x hx
  · show AckSound r.ack r.ackBits _
    rw [hs'.ack, hs'.ackBits]
    exact hcur
  · exact (h.headers x hx).mono (List.subset_cons_self _ _)
  · have hm := h.marks hn (fun x hx => h'.received_lt x hx) hsound hok hsame hmarks hr₁
    exact hm

/-- **One step** of the system keeps the invariant on both sides. -/
theorem linkStep_inv {s s' : Link} {act : LinkAction} (h : Short s → ∀ x, PeerInv (s x) (s !x))
    (hok : NoAlias s act) (hs : linkStep s act = some s') :
    Short s' → ∀ x, PeerInv (s' x) (s' !x) := by
  intro hshort'
  cases act with
  | send x size =>
    simp only [linkStep, Option.bind_eq_bind, Option.bind_eq_some_iff, Option.some.injEq] at hs
    obtain ⟨rel, hrel, rfl⟩ := hs
    have hshort : Short s := by
      intro y
      have := hshort' y
      rcases eq_or_ne y x with rfl | hne
      · simp only [Function.update_self, List.length_append, List.length_singleton] at this
        omega
      · rwa [Function.update_of_ne hne] at this
    intro y
    rcases Bool.eq_or_eq_not y x with rfl | rfl
    · rw [Function.update_self, Function.update_of_ne (by simp)]
      exact (h hshort y).send (hshort y) hrel
    · rw [Function.update_of_ne (by simp), Bool.not_not, Function.update_self]
      have hother : PeerInv (s !x) (s x) := by simpa using h hshort !x
      exact hother.other_sends (by simp) rfl
  | deliver x i =>
    simp only [linkStep] at hs
    split at hs
    · cases hs
      exact h hshort'
    · rename_i hd hi
      simp only [Option.bind_eq_bind, Option.bind_eq_some_iff, Option.some.injEq] at hs
      obtain ⟨rel, hrel, rfl⟩ := hs
      have hshort : Short s := by
        intro y
        have := hshort' y
        rcases eq_or_ne y x with rfl | hne
        · simpa using this
        · rwa [Function.update_of_ne hne] at this
      have hx := h hshort x
      have hx' : PeerInv (s !x) (s x) := by simpa using h hshort !x
      intro y
      rcases Bool.eq_or_eq_not y x with rfl | rfl
      · rw [Function.update_self, Function.update_of_ne (by simp)]
        exact hx.deliver hx' (hshort y) (hshort !y) hi (hok hd hi) hrel
      · rw [Function.update_of_ne (by simp), Bool.not_not, Function.update_self]
        exact hx'.other_receives rfl (List.subset_cons_self _ _)

/-- **No false acknowledgement**: in every run without a sequence wrap in which no delivery reports
a packet that has left the ring, every packet in the ring that is marked as acked was received by
the other side. -/
theorem link_acks_honest {as : List LinkAction} {s : Link}
    (hr : run linkStep linkStart as = some s) (hok : Along linkStep NoAlias linkStart as)
    (hshort : Short s) : AcksHonest s := by
  have hinv : Short s → ∀ x, PeerInv (s x) (s !x) :=
    run_along (P := fun s => Short s → ∀ x, PeerInv (s x) (s !x)) (fun _ x => PeerInv.start x)
      (fun s a s' h ho hs => linkStep_inv h ho hs) hr hok
  intro x d p _ _ hp ha
  exact (hinv hshort x).acked _ p hp ha

/-- Packets 0 and 2 of one side arrive and are acked at once; both marks are honest. -/
theorem link_acks_honest_exchange :
    ∃ s, run linkStep linkStart (List.replicate 3 (.send false 8) ++
        [.deliver true 0, .deliver true 2, .send true 8, .deliver false 0]) = some s ∧
      Short s ∧ AcksHonest s := by
  obtain ⟨s, hs⟩ := Option.isSome_iff_exists.1 (show (run linkStep linkStart
    (List.replicate 3 (.send false 8) ++
      [.deliver true 0, .deliver true 2, .send true 8, .deliver false 0])).isSome = true by
    decide +kernel)
  have hlen : (run linkStep linkStart (List.replicate 3 (.send false 8) ++
      [.deliver true 0, .deliver true 2, .send true 8, .deliver false 0])).all (fun s =>
        (s false).outbox.length == 3 && (s true).outbox.length == 1) = true := by
    decide +kernel
  rw [hs] at hlen
  simp only [Option.all_some, Bool.and_eq_true, beq_iff_eq] at hlen
  have hshort : Short s := by
    intro x
    cases x
    · omega
    · omega
  exact ⟨s, hs, hshort, link_acks_honest hs (by decide +kernel) hshort⟩

end UniversalNetwork
