import UniversalNetwork.StreamReliability.NoFalseAck

/-!
# What an update leaves alone

`streamReliabilityUpdate` ages the packets, moves the two fronts and computes statistics. What the
next packet says about the state, and which packets of the ring are marked as acked, stay as they are
(`streamReliabilityUpdate_reports`), so an update keeps what holds of a side of a link
(`PeerInv.updated`).
-/

namespace UniversalNetwork

open Lib

structure SameReports (ref ref' : StreamReliability) : Prop where
  sequence : ref'.sequence = ref.sequence
  ack : ref'.ack = ref.ack
  ackBits : ref'.ackBits = ref.ackBits
  slot : ∀ i : Nat, ref'.packets[i]?.map (fun p => (p.sequence, p.acked)) =
    ref.packets[i]?.map (fun p => (p.sequence, p.acked))

section Update

variable {ref ref' ref'' : StreamReliability}

theorem SameReports.refl (ref : StreamReliability) : SameReports ref ref :=
  ⟨rfl, rfl, rfl, fun _ => rfl⟩

theorem SameReports.trans (h : SameReports ref ref') (h' : SameReports ref' ref'') :
    SameReports ref ref'' where
  sequence := h'.sequence.trans h.sequence
  ack := h'.ack.trans h.ack
  ackBits := h'.ackBits.trans h.ackBits
  slot := fun i => (h'.slot i).trans (h.slot i)

/-- A packet in the ring afterwards was there before. -/
theorem SameReports.get (h : SameReports ref ref') {i : Nat} {p : StreamPacketMetadata}
    (hp : ref'.packets[i]? = some p) :
    ∃ q, ref.packets[i]? = some q ∧ q.sequence = p.sequence ∧ q.acked = p.acked := by
  have hslot := h.slot i
  rw [hp, Option.map_some, eq_comm, Option.map_eq_some_iff] at hslot
  obtain ⟨q, hq, heq⟩ := hslot
  exact ⟨q, hq, (Prod.mk.inj heq).1, (Prod.mk.inj heq).2⟩

theorem sentFrontLoop_reports (n : Nat) :
    ∀ {ref : StreamReliability}, sentFrontLoop n ref = some ref' → SameReports ref ref' := by
  induction n with
  | zero => exact nofun
  | succ n ih =>
    intro ref h
    unfold sentFrontLoop at h
    split at h
    · cases h
      exact .refl _
    · obtain ⟨packet, -, h⟩ := Option.bind_eq_some_iff.1 h
      split at h
      · have hrest := ih h
        exact ⟨hrest.sequence, hrest.ack, hrest.ackBits, hrest.slot⟩
      · cases h
        exact .refl _

theorem ackedFrontLoop_reports (n : Nat) :
    ∀ {ref : StreamReliability}, ackedFrontLoop n ref = some ref' → SameReports ref ref' := by
  induction n with
  | zero => exact nofun
  | succ n ih =>
    intro ref h
    unfold ackedFrontLoop at h
    split at h
    · cases h
      exact .refl _
    · obtain ⟨packet, -, h⟩ := Option.bind_eq_some_iff.1 h
      split at h
      · have hrest := ih h
        exact ⟨hrest.sequence, hrest.ack, hrest.ackBits, hrest.slot⟩
      · cases h
        exact .refl _

theorem ackedCountLoop_reports (n : Nat) :
    ∀ {ref : StreamReliability} {pivot : Nat}, ackedCountLoop n ref pivot = some ref' →
      SameReports ref ref' := by
  induction n with
  | zero => exact nofun
  | succ n ih =>
    intro ref pivot h
    unfold ackedCountLoop at h
    split at h
    · cases h
      exact .refl _
    · obtain ⟨packet, -, h⟩ := Option.bind_eq_some_iff.1 h
      have hrest := ih h
      split at hrest
      · exact ⟨hrest.sequence, hrest.ack, hrest.ackBits, hrest.slot⟩
      · exact hrest

theorem streamReliabilityUpdate_reports {dt : ℚ} (h : streamReliabilityUpdate ref dt = some ref') :
    SameReports ref ref' := by
  unfold streamReliabilityUpdate at h
  split at h
  · cases h
    exact .refl _
  · obtain ⟨r₁, h₁, h⟩ := Option.bind_eq_some_iff.1 h
    obtain ⟨r₂, h₂, h⟩ := Option.bind_eq_some_iff.1 h
    obtain ⟨r₃, h₃, h⟩ := Option.bind_eq_some_iff.1 h
    cases h
    have haged : SameReports ref (ref.aged dt) := by
      refine ⟨rfl, rfl, rfl, fun i => ?_⟩
      simp only [StreamReliability.aged, Vector.getElem?_map, Option.map_map]
      rfl
    have hsent := haged.trans (sentFrontLoop_reports _ h₁)
    have hacked := hsent.trans (ackedFrontLoop_reports _ h₂)
    have hcount := ackedCountLoop_reports _ h₃
    exact hacked.trans ⟨hcount.sequence, hcount.ack, hcount.ackBits, hcount.slot⟩

end Update

/-- An update of one side of a link. -/
theorem PeerInv.updated {me other : Peer} (h : PeerInv me other) {rel : StreamReliability}
    (hreports : SameReports me.rel rel)
    (hring : ∃ a f, RingAt me.outbox.length a f rel) : PeerInv { me with rel } other where
  ring := hring
  numbered := h.numbered
  received_lt := h.received_lt
  current := by
    show AckSound rel.ack rel.ackBits me.received
    rw [hreports.ack, hreports.ackBits]
    exact h.current
  headers := h.headers
  acked := fun i p hp hacked => by
    obtain ⟨q, hq, hsequence, hmark⟩ := hreports.get hp
    rw [← hsequence]
    exact h.acked i q hq (hmark.trans hacked)

end UniversalNetwork
