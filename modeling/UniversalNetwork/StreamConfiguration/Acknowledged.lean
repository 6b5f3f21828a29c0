import UniversalNetwork.StreamConfiguration.Reports

/-!
# Acknowledged packets were delivered

Two parties of the network have a stream to each other and keep it. `TowardMove` is what a step does to
the reliability state that a party has of one address: it is updated, one packet is sent, or a packet
is processed. So the two states go through the steps of a link (`PeerInv`), whatever the others do.

* `acked_packets_delivered`: a packet that is marked as acked was sent to the peer, and the application
  there got its object.
-/

namespace UniversalNetwork

open Lib

/-! ## The stream of an address -/

section Find

variable {config config' : StreamConfiguration} {address : NetAddr} {i : Nat}

theorem StreamTable.find_eq_some_iff (h : StreamTable config) :
    config.find address = some i ↔ i ∈ config.streams ∧ (config.memory i).address = address := by
  refine ⟨fun hfind => ⟨List.mem_of_find?_eq_some hfind, find_address hfind⟩, ?_⟩
  rintro ⟨hi, haddress⟩
  cases hfind : config.find address with
  | none =>
    have hdifferent := find_eq_none hfind i hi
    rw [haddress, netAddrIsEqual_iff.2 rfl] at hdifferent
    cases hdifferent
  | some j =>
    have hj := List.mem_of_find?_eq_some hfind
    by_contra hne
    have hij : i ≠ j := fun heq => hne (heq ▸ rfl)
    have hsymm : Std.Symm fun k l => netAddrIsEqual (config.memory k).address
        (config.memory l).address = false := by
      refine ⟨fun k l hkl => ?_⟩
      rw [Bool.eq_false_iff, ne_eq, netAddrIsEqual_iff] at hkl ⊢
      exact fun heq => hkl heq.symm
    have hdifferent := h.different.forall hi hj hij
    rw [haddress, find_address hfind, netAddrIsEqual_iff.2 rfl] at hdifferent
    cases hdifferent

/-- Two tables with the same streams of an address. -/
theorem StreamTable.find_congr (h : StreamTable config) (h' : StreamTable config')
    (hsame : ∀ i, i ∈ config'.streams ∧ (config'.memory i).address = address ↔
      i ∈ config.streams ∧ (config.memory i).address = address) :
    config'.find address = config.find address := by
  refine Option.ext fun i => ?_
  rw [h'.find_eq_some_iff, h.find_eq_some_iff, hsame]

theorem SameTable.find (hs : SameTable config config') (h : StreamTable config) :
    config'.find address = config.find address := by
  refine h.find_congr (h.same hs) fun i => ?_
  rw [hs.streams, hs.address]

/-- A stream of the address is found as before, or it is new. -/
def FindMove (address : NetAddr) (config config' : StreamConfiguration) : Prop :=
  config'.find address = config.find address ∨
    config.find address = none ∧ config'.find address = some config.streamCount ∧
      config'.memory config.streamCount = streamCreate address

theorem streamResume_same (config : StreamConfiguration) :
    (streamResume config).streams = config.streams ∧
      (streamResume config).memory = config.memory := by
  unfold streamResume
  split <;> exact ⟨rfl, rfl⟩

theorem suspended_same (config : StreamConfiguration) :
    config.suspended.streams = config.streams ∧
      config.suspended.memory = config.memory := by
  unfold StreamConfiguration.suspended
  split <;> exact ⟨rfl, rfl⟩

theorem findMove_add (h : StreamTable config) {other : NetAddr}
    (h' : StreamTable (streamAddBlock config other)) :
    FindMove address config (streamAddBlock config other) := by
  cases hfind : config.find other with
  | some j =>
    have hsame : streamAddBlock config other = config := by
      simp only [streamAddBlock, hfind]
    rw [hsame]
    exact .inl rfl
  | none =>
    have hadd : streamAddBlock config other = streamResume (addStream config other) := by
      simp only [streamAddBlock, hfind]
    obtain ⟨hstreams, hmemory⟩ := streamResume_same (addStream config other)
    rw [← hadd] at hstreams hmemory
    replace hstreams : (streamAddBlock config other).streams =
      config.streams ++ [config.streamCount] := hstreams
    replace hmemory : (streamAddBlock config other).memory =
      Function.update config.memory config.streamCount (streamCreate other) := hmemory
    have hnew : (streamAddBlock config other).memory config.streamCount = streamCreate other := by
      rw [hmemory, Function.update_self]
    have hold : ∀ i ∈ config.streams,
        (streamAddBlock config other).memory i = config.memory i := by
      intro i hi
      rw [hmemory, Function.update_of_ne (Nat.ne_of_lt (h.created i hi))]
    by_cases hother : address = other
    · subst hother
      refine .inr ⟨hfind, h'.find_eq_some_iff.2 ⟨?_, ?_⟩, hnew⟩
      · rw [hstreams]
        exact List.mem_append_right _ List.mem_cons_self
      · rw [hnew]
        rfl
    · refine .inl (h.find_congr h' fun i => ?_)
      rw [hstreams, List.mem_append, List.mem_singleton]
      constructor
      · rintro ⟨hi | rfl, haddress⟩
        · exact ⟨hi, by rw [← haddress, hold i hi]⟩
        · rw [hnew] at haddress
          exact absurd haddress.symm hother
      · rintro ⟨hi, haddress⟩
        exact ⟨.inl hi, by rw [hold i hi, haddress]⟩

theorem findMove_remove (h : StreamTable config) {other : NetAddr} (hother : address ≠ other)
    (h' : StreamTable (config.removed other)) :
    FindMove address config (config.removed other) := by
  cases hfind : config.find other with
  | none =>
    have hsame : config.removed other = config := by
      simp only [StreamConfiguration.removed, hfind]
    rw [hsame]
    exact .inl rfl
  | some j =>
    have hstreams : (config.removed other).streams = config.streams.erase j := by
      simp only [StreamConfiguration.removed, hfind]
      split
      · exact (suspended_same _).1
      · rfl
    have hmemory : (config.removed other).memory = config.memory := by
      simp only [StreamConfiguration.removed, hfind]
      split
      · exact (suspended_same _).2
      · rfl
    refine .inl (h.find_congr h' fun i => ?_)
    rw [hstreams, hmemory]
    refine and_congr_left fun haddress => ?_
    have hne : i ≠ j := by
      rintro rfl
      exact hother (haddress.symm.trans (find_address hfind))
    exact List.mem_erase_of_ne hne

/-- **One step** that is not the removal of the stream. -/
theorem streamStep_find (h : StreamTable config) {action : StreamAction}
    (hkeep : config.head action ≠ some (.remove address))
    (hstep : streamStep config action = some config') : FindMove address config config' := by
  have h' := (streamStep_table h hstep).1
  have hquiet : Quiet config config' → FindMove address config config' :=
    fun hquiet => .inl (hquiet.sameTable.find h)
  cases action with
  | suspend =>
    obtain ⟨-, rfl⟩ := streamSuspend_iff.1 hstep
    obtain ⟨hstreams, hmemory⟩ := suspended_same config
    exact .inl (h.find_congr h' fun i => by rw [hstreams, hmemory])
  | resume =>
    cases hstep
    obtain ⟨hstreams, hmemory⟩ := streamResume_same config
    exact .inl (h.find_congr h' fun i => by rw [hstreams, hmemory])
  | tick object => exact .inl ((streamTimerCallback_same hstep).find h)
  | block stack =>
    cases hqueue : config.streamDispatchQueue with
    | nil =>
      simp only [streamStep, hqueue] at hstep
      cases hstep
      exact .inl rfl
    | cons block rest =>
      have hpopped : StreamTable { config with streamDispatchQueue := rest } :=
        h.same (quiet_popped config rest).sameTable
      simp only [StreamConfiguration.head, hqueue, List.head?_cons, ne_eq, Option.some.injEq]
        at hkeep
      simp only [streamStep, hqueue] at hstep
      cases block with
      | add other =>
        cases hstep
        exact findMove_add hpopped h'
      | remove other =>
        obtain ⟨-, rfl⟩ := streamRemoveBlock_iff.1 hstep
        exact findMove_remove hpopped (fun heq => hkeep (heq ▸ rfl)) h'
      | timeout i =>
        cases hstep
        exact hquiet (streamTimeoutBlock_quiet (quiet_popped config rest) i)
      | receive packet => exact hquiet (streamReceiveBlock_quiet (quiet_popped config rest) hstep)
  | add _ | remove _ | read _ | callback _ | socketBlock | write =>
    cases streamStep_move hstep with
    | quiet hmove _ => exact hquiet hmove

end Find

/-! ## The reliability state that a party has of an address -/

/-- Without a stream it is that of a new one. -/
def StreamConfiguration.toward (config : StreamConfiguration) (address : NetAddr) :
    StreamReliability :=
  match config.find address with
  | some i => (config.memory i).reliability
  | none => streamReliabilityClear .zeroed

/-- The ring has as many packets as before. -/
def SameCount (ref ref' : StreamReliability) : Prop :=
  ∀ n, (∃ a f, RingAt n a f ref) → ∃ a f, RingAt n a f ref'

/-- What a step does to the state of an address, with the packets it sends there. -/
inductive TowardMove (inn : NetAddr → StreamPacket → Prop) (address : NetAddr)
    (config config' : StreamConfiguration) (action : StreamAction) : Prop
  | kept (hreports : SameReports (config.toward address) (config'.toward address))
    (hcount : SameCount (config.toward address) (config'.toward address))
    (hsent : (sentPackets config config' action).filter (·.address = address) = [])
  | sent {ref : StreamReliability} {size : Nat} {p : StreamPacket}
    (hreports : SameReports (config.toward address) ref)
    (hcount : SameCount (config.toward address) ref)
    (hpacket : streamReliabilityPacketSent ref size = some (config'.toward address))
    (hheader : p.header = ⟨ref.sequence, ref.ack, ref.ackBits⟩)
    (hsent : (sentPackets config config' action).filter (·.address = address) = [p])
  | received {i : Nat} {p : StreamPacket} {object : StreamObject} (hlaw : inn address p)
    (hreport : config.report action = some (i, .ofNat p.header.ack, .ofBitVec p.header.ackBits))
    (htoward : config.toward address = (config.memory i).reliability)
    (hreceived : streamReliabilityPacketReceived (config.toward address)
      (p.header.sequence % 2 ^ 32) (p.header.ack % 2 ^ 32) p.header.ackBits =
        some (config'.toward address))
    (hlog : .receive address object ∈ config'.log) (hsame : object.Same p.object)
    (hsent : sentPackets config config' action = [])

section Toward

variable {out : StreamPacket → Prop} {inn : NetAddr → StreamPacket → Prop}
  {config config' : StreamConfiguration} {address : NetAddr} {object : StreamObject} {i : Nat}

theorem toward_of_find (h : config.find address = some i) :
    config.toward address = (config.memory i).reliability := by
  simp only [StreamConfiguration.toward, h]

theorem SameCount.refl (ref : StreamReliability) : SameCount ref ref := fun _ h => h

/-- The packets of a tick for the address of a stream. -/
theorem tickPackets_filter (htable : StreamTable config) (hfind : config.find address = some i) :
    (tickPackets config config' object).filter (·.address = address) =
      if (config'.memory i).reliability.sequence ≠ (config.memory i).reliability.sequence then
        [(config.memory i).nextPacket object] else [] := by
  obtain ⟨hi, haddress⟩ := htable.find_eq_some_iff.1 hfind
  -- of the streams that have sent, the one with this address is `i`
  have hone : ∀ j ∈ config.streams, (config.memory j).address = address ↔ j = i := by
    intro j hj
    constructor
    · intro hjaddress
      exact Option.some.inj ((htable.find_eq_some_iff.2 ⟨hj, hjaddress⟩).symm.trans hfind)
    · rintro rfl
      exact haddress
  have hstreams : config.streams.filter (fun j => (config.memory j).address = address) = [i] := by
    have heq : config.streams.filter (fun j => (config.memory j).address = address) =
        config.streams.filter (· == i) :=
      List.filter_congr fun j hj => by rw [Bool.eq_iff_iff]; simp [hone j hj]
    rw [heq, List.filter_beq, List.Nodup.count htable.nodup, if_pos hi]
    rfl
  rw [tickPackets, List.filter_map]
  show (List.filter (fun j => decide ((config.memory j).address = address)) (List.filter _ _)).map _ = _
  rw [List.filter_comm, hstreams]
  split
  · rename_i hsent
    rw [List.filter_cons_of_pos (by simpa using hsent)]
    rfl
  · rename_i hsent
    rw [List.filter_cons_of_neg (by simpa using hsent)]
    rfl

theorem tickPackets_none (hfind : config.find address = none) :
    (tickPackets config config' object).filter (·.address = address) = [] := by
  refine List.filter_eq_nil_iff.2 fun p hp haddress => ?_
  obtain ⟨j, hj, -, rfl⟩ := mem_tickPackets.1 hp
  have hdifferent := find_eq_none hfind j hj
  have haddress' : (config.memory j).address = address := of_decide_eq_true haddress
  rw [netAddrIsEqual_iff.2 haddress'] at hdifferent
  cases hdifferent

theorem sentPackets_none {action : StreamAction} (hfind : config.find address = none) :
    (sentPackets config config' action).filter (·.address = address) = [] := by
  cases action with
  | tick object => exact tickPackets_none hfind
  | _ => rfl

theorem sentPackets_of_not_tick {action : StreamAction} (h : action.isTick = false) :
    sentPackets config config' action = [] := by
  cases action with
  | tick object => cases h
  | _ => rfl

/-- A stream through a tick. -/
theorem Ticked.toward (htable : StreamTable config) (hfind : config.find address = some i)
    (hfind' : config'.find address = some i)
    (h : Ticked (config.memory i) (config'.memory i)) :
    TowardMove inn address config config' (.tick object) := by
  have htoward := toward_of_find hfind
  have htoward' := toward_of_find hfind'
  have hsent : (sentPackets config config' (.tick object)).filter (·.address = address) = _ :=
    tickPackets_filter htable hfind
  generalize hstream : config'.memory i = stream' at h hsent htoward'
  cases h with
  | updated hupdate =>
    have hreports := Stream.update_reports hupdate
    rw [if_neg (not_not.2 hreports.sequence)] at hsent
    refine .kept (htoward ▸ htoward' ▸ hreports) ?_ hsent
    rintro n ⟨a, f, hring⟩
    rw [htoward] at hring
    rw [htoward']
    exact Stream.update_ring hring hupdate
  | @sent due stream₁ size reliability hupdate hpacket =>
    have hreports := Stream.update_reports hupdate
    rw [if_pos fun hsame => packetSent_counts hpacket (hsame.trans hreports.sequence.symm)] at hsent
    have hpacket' : streamReliabilityPacketSent stream₁.reliability size =
        some (config'.toward address) := by
      rw [htoward']
      exact hpacket
    refine .sent (htoward ▸ hreports) ?_ hpacket' ?_ hsent
    · rintro n ⟨a, f, hring⟩
      rw [htoward] at hring
      exact Stream.update_ring hring hupdate
    · rw [Stream.nextPacket, hreports.sequence, hreports.ack, hreports.ackBits]

/-- **What a step can do** to the state of an address whose stream it does not remove. -/
theorem streamStep_toward {sent : Nat → Nat} {action : StreamAction}
    (h : StreamContents out inn config) (hheld : StreamHeld config [])
    (hnumbered : Numbered sent config) (hfits : ∀ address p, inn address p → p.object.Fits)
    (hkeep : config.head action ≠ some (.remove address))
    (hstep : streamStep config action = some config') :
    TowardMove inn address config config' action := by
  have htable := hnumbered.table
  -- where the state stays as it is and nothing is sent
  have hkept : config'.toward address = config.toward address →
      (sentPackets config config' action).filter (·.address = address) = [] →
      TowardMove inn address config config' action := by
    intro hsame hsent
    refine .kept ?_ ?_ hsent
    · rw [hsame]
      exact .refl _
    · rw [hsame]
      exact .refl _
  rcases streamStep_find htable hkeep hstep with hsame | ⟨hnone, hnew, hcreated⟩
  · cases hfind : config.find address with
    | none =>
      refine hkept ?_ (sentPackets_none hfind)
      simp only [StreamConfiguration.toward, hsame, hfind]
    | some i =>
      have hfind' : config'.find address = some i := hsame.trans hfind
      have htoward := toward_of_find hfind
      have htoward' := toward_of_find hfind'
      obtain ⟨hi, -⟩ := htable.find_eq_some_iff.1 hfind
      have hquiet : action.isTick = false →
          (config'.memory i).reliability = (config.memory i).reliability →
          TowardMove inn address config config' action := by
        intro htick hrel
        refine hkept ?_ (by rw [sentPackets_of_not_tick htick]; rfl)
        rw [htoward', htoward, hrel]
      cases streamStep_streams htable hstep with
      | kept _ _ htick hmemory _ _ _ => exact hquiet htick (by rw [hmemory])
      | created _ _ htick _ hmemory _ _ _ =>
        have hne : i ≠ config.streamCount := Nat.ne_of_lt (htable.created i hi)
        exact hquiet htick (by rw [hmemory, Function.update_of_ne hne])
      | ticked _ _ htick _ hticked _ _ _ =>
        cases action with
        | tick object => exact (hticked i hi).toward htable hfind hfind'
        | _ => cases htick
      | timedOut j _ _ htick hmemory _ _ _ =>
        refine hquiet htick ?_
        rw [hmemory]
        by_cases hj : i = j
        · subst hj
          rw [Function.update_self]
        · rw [Function.update_of_ne hj]
      | accepted j _ _ _ _ haccepts _ htick _ _ _ _ _ _ =>
        cases streamStep_reception h hheld hfits haccepts hstep with
        | ignored hmemory => exact hquiet htick (by rw [hmemory])
        | @processed sender p j object reliability hlaw hfound hreceived hmemory hlog hobject hreport =>
          by_cases hj : i = j
          · subst hj
            obtain rfl : sender = address :=
              (find_address hfound).symm.trans (find_address hfind)
            refine .received hlaw hreport htoward ?_ ?_ hobject (sentPackets_of_not_tick htick)
            · rw [htoward', htoward, hreceived, hmemory, Function.update_self]
            · rw [hlog]
              exact List.mem_append_right _ List.mem_cons_self
          · exact hquiet htick (by rw [hmemory, Function.update_of_ne hj])
  · refine hkept ?_ (sentPackets_none hnone)
    rw [toward_of_find hnew, hcreated]
    simp only [StreamConfiguration.toward, hnone]
    rfl

end Toward

/-! ## Removals -/

section Removals

variable {config config' : StreamConfiguration} {address : NetAddr}

/-- The address that a call removes. -/
def StreamAction.removes : StreamAction → Option NetAddr
  | .remove address => some address
  | _ => none

theorem streamReceiveBlock_removes {packet : Nat} {stack : StreamObject}
    (hblock : streamReceiveBlock config packet stack = some config')
    (h : .remove address ∈ config'.streamDispatchQueue) :
    .remove address ∈ config.streamDispatchQueue := by
  cases streamReceiveBlock_receive hblock with
  | invalid _ _ => exact h
  | unknown _ _ =>
    rcases List.mem_append.1 h with h | h
    · exact h
    · cases List.mem_singleton.1 h
  | known _ _ _ _ _ hset =>
    subst hset
    split at h <;> exact h

theorem streamTimerCallback_removes (htable : StreamTable config) {object : StreamObject}
    (htimer : streamTimerCallback config object = some config')
    (h : .remove address ∈ config'.streamDispatchQueue) :
    .remove address ∈ config.streamDispatchQueue := by
  have hupdated : ∀ {syncUpdate config₁},
      updateStreams config.streams config = some (syncUpdate, config₁) →
      .remove address ∈ config₁.streamDispatchQueue →
      .remove address ∈ config.streamDispatchQueue := by
    intro syncUpdate config₁ hupdate hmem
    rw [updateStreams_queue htable.nodup hupdate] at hmem
    rcases List.mem_append.1 hmem with hmem | hmem
    · exact hmem
    · obtain ⟨i, -, heq⟩ := List.mem_map.1 hmem
      cases heq
  cases streamTimerCallback_tick htimer with
  | idle _ => exact h
  | updated _ hupdate => exact hupdated hupdate h
  | @sent config₁ _ _ hupdate hsend =>
    have hlist := (updateStreams_same hupdate).streams
    have hnodup : config₁.streams.Nodup := hlist ▸ htable.nodup
    rw [(sendStreams_eq hnodup hsend).1] at h
    exact hupdated hupdate h

/-- A removal that is queued was queued before, or is requested. -/
theorem streamStep_removes (htable : StreamTable config) {action : StreamAction}
    (hstep : streamStep config action = some config')
    (h : .remove address ∈ config'.streamDispatchQueue) :
    .remove address ∈ config.streamDispatchQueue ∨ action.removes = some address := by
  cases action with
  | add other =>
    cases hstep
    rcases List.mem_append.1 h with h | h
    · exact .inl h
    · cases List.mem_singleton.1 h
  | remove other =>
    cases hstep
    rcases List.mem_append.1 h with h | h
    · exact .inl h
    · cases List.mem_singleton.1 h
      exact .inr rfl
  | suspend =>
    obtain ⟨-, rfl⟩ := streamSuspend_iff.1 hstep
    unfold StreamConfiguration.suspended at h
    split at h <;> exact .inl h
  | resume =>
    cases hstep
    unfold streamResume at h
    split at h <;> exact .inl h
  | tick object => exact .inl (streamTimerCallback_removes htable hstep h)
  | block stack =>
    cases hqueue : config.streamDispatchQueue with
    | nil =>
      simp only [streamStep, hqueue] at hstep
      cases hstep
      rw [hqueue] at h
      exact .inl h
    | cons block rest =>
      simp only [streamStep, hqueue] at hstep
      refine .inl (List.mem_cons_of_mem block ?_)
      cases block with
      | add other =>
        cases hstep
        unfold streamAddBlock at h
        split at h
        · exact h
        · unfold streamResume at h
          split at h <;> exact h
      | remove other =>
        obtain ⟨-, rfl⟩ := streamRemoveBlock_iff.1 hstep
        unfold StreamConfiguration.removed at h
        split at h
        · exact h
        · dsimp only at h
          split at h
          · unfold StreamConfiguration.suspended at h
            split at h <;> exact h
          · exact h
      | timeout i =>
        cases hstep
        exact h
      | receive packet => exact streamReceiveBlock_removes hstep h
  | read recvfrom =>
    simp only [streamStep] at hstep
    split at hstep <;> cases hstep <;> exact .inl h
  | callback i =>
    simp only [streamStep] at hstep
    split at hstep <;> cases hstep
    · exact .inl h
    · rcases List.mem_append.1 h with h | h
      · exact .inl h
      · cases List.mem_singleton.1 h
  | socketBlock | write =>
    cases hstep
    exact .inl h

end Removals

/-! ## Two parties -/

section Pair

variable {ι : Type} {address : ι → NetAddr} {net net' : StreamNetwork ι} {x y : ι}

/-- The packets that `x` has sent to `y`, oldest first. -/
def mail (address : ι → NetAddr) (net : StreamNetwork ι) (x y : ι) : List StreamPacket :=
  (net x).outbox.filter (·.address = address y)

/-- The side of `x` in the link with `y`. -/
def peerOf (address : ι → NetAddr) (net : StreamNetwork ι) (x y : ι) (received : List Nat) :
    Peer where
  rel := (net x).config.toward (address y)
  outbox := (mail address net x y).map (·.header)
  received

structure SideInv (address : ι → NetAddr) (net : StreamNetwork ι) (x y : ι)
    (received received' : List Nat) : Prop where
  peer : PeerInv (peerOf address net x y received) (peerOf address net y x received')
  heard : ∀ r ∈ received, Heard address net x (address y) r

def PairInv (address : ι → NetAddr) (net : StreamNetwork ι) (x y : ι) : Prop :=
  ∃ received received', SideInv address net x y received received' ∧
    SideInv address net y x received' received

/-- The number of packets is short of a sequence wrap on both sides. -/
def ShortMail (address : ι → NetAddr) (net : StreamNetwork ι) (x y : ι) : Prop :=
  (mail address net x y).length < 65535 ∧ (mail address net y x).length < 65535

instance (address : ι → NetAddr) (net : StreamNetwork ι) (x y : ι) :
    Decidable (ShortMail address net x y) :=
  inferInstanceAs (Decidable (_ ∧ _))

/-- A packet that acks one of the last 34 packets reports none older than the last 35. -/
def FreshReport (config : StreamConfiguration) (action : StreamAction) : Prop :=
  ∀ r ∈ config.report action, (config.memory r.1).reliability.sequence < r.2.1.toNat + 35 →
    ∀ k < 31, r.2.2.toBitVec.getLsbD k = true →
      (config.memory r.1).reliability.sequence + k ≤ r.2.1.toNat + 35

instance (config : StreamConfiguration) (action : StreamAction) :
    Decidable (FreshReport config action) :=
  inferInstanceAs (Decidable (∀ r ∈ _, _ → ∀ k < 31, _ → _))

theorem PairInv.symm (h : PairInv address net x y) : PairInv address net y x := by
  obtain ⟨received, received', hx, hy⟩ := h
  exact ⟨received', received, hy, hx⟩

theorem networkSetup_pair (packets : ι → Nat → Vector UInt8 kNetPacketMaxLen)
    (suspendCallback : ι → Bool) : PairInv address (networkSetup packets suspendCallback) x y :=
  ⟨[], [], ⟨PeerInv.start true, nofun⟩, ⟨PeerInv.start false, nofun⟩⟩

theorem Heard.mono {sender : NetAddr} {sequence : Nat} (h : Heard address net x sender sequence)
    (hgrow : ∀ y, (net y).outbox ⊆ (net' y).outbox)
    (hlog : (net x).config.log <+: (net' x).config.log) :
    Heard address net' x sender sequence := by
  obtain ⟨p, object, hp, hsequence, hevent, hsame⟩ := h
  exact ⟨p, object, hp.mono hgrow, hsequence, hlog.subset hevent, hsame⟩

/-- Others make a step. -/
theorem SideInv.others {received received' : List Nat} (h : SideInv address net x y received received')
    (hx : net' x = net x) (hy : net' y = net y) (hgrow : ∀ z, (net z).outbox ⊆ (net' z).outbox) :
    SideInv address net' x y received received' where
  peer := by
    have hpeer := h.peer
    simp only [peerOf, mail, hx, hy] at hpeer ⊢
    exact hpeer
  heard := fun r hr => (h.heard r hr).mono hgrow (hx ▸ List.prefix_rfl)

/-- A packet for `x` from the address of `y` is one of its mail. -/
theorem SentTo.mail (hinjective : Function.Injective address) {p : StreamPacket}
    (h : SentTo address net x (address y) p) : p ∈ mail address net y x := by
  obtain ⟨z, hz, hp, haddress⟩ := h
  obtain rfl := hinjective hz
  exact List.mem_filter.2 ⟨hp, decide_eq_true haddress⟩

/-- The steps that the theorem is about: objects fit, neither of the two removes the other, and no
packet reports one that has left the ring. -/
def Keeping (address : ι → NetAddr) (x y : ι) (net : StreamNetwork ι) :
    NetworkAction ι → Prop
  | .perform z act => act.Fits ∧ FreshReport (net z).config act ∧
      (z = x → act.removes ≠ some (address y)) ∧ (z = y → act.removes ≠ some (address x))
  | .deliver _ _ _ => True

instance [DecidableEq ι] (net : StreamNetwork ι) : DecidablePred (Keeping address x y net)
  | .perform _ _ => inferInstanceAs (Decidable (_ ∧ _ ∧ _ ∧ _))
  | .deliver _ _ _ => .isTrue trivial

/-- What holds of the two parties in a run without removals. -/
structure AckInv (address : ι → NetAddr) (x y : ι) (net : StreamNetwork ι) : Prop where
  network : NetworkInv address net
  keeps : .remove (address y) ∉ (net x).config.streamDispatchQueue
  keeps' : .remove (address x) ∉ (net y).config.streamDispatchQueue
  pair : ShortMail address net x y → PairInv address net x y

theorem networkSetup_ack (packets : ι → Nat → Vector UInt8 kNetPacketMaxLen)
    (suspendCallback : ι → Bool) : AckInv address x y (networkSetup packets suspendCallback) :=
  ⟨networkSetup_inv packets _, List.not_mem_nil, List.not_mem_nil,
    fun _ => networkSetup_pair packets _⟩

section Steps

variable [DecidableEq ι] {act : StreamAction} {party : StreamParty}

/-- A step of `x`. -/
theorem PairInv.partyStep (h : PairInv address net x y) (hinv : NetworkInv address net)
    (hinjective : Function.Injective address) (hne : y ≠ x) (hshort : ShortMail address net x y)
    (hkeep : (net x).config.head act ≠ some (.remove (address y)))
    (hfresh : FreshReport (net x).config act)
    (hparty : streamPartyStep (net x) act = some party) :
    PairInv address (Function.update net x party) x y := by
  obtain ⟨received, received', hx, hy⟩ := h
  obtain ⟨hstep, houtbox⟩ := streamPartyStep_eq hparty
  have hgrow := outbox_update (streamPartyStep_outbox hparty)
  obtain ⟨sent, hnumbered⟩ := hinv.numbered x
  have hself : Function.update net x party x = party := Function.update_self _ _ _
  have hother : Function.update net x party y = net y := Function.update_of_ne hne _ _
  have hlog : (net x).config.log <+: (Function.update net x party x).config.log := by
    rw [hself]
    exact streamStep_log hnumbered.table hstep
  have hheard : ∀ r ∈ received, Heard address (Function.update net x party) x (address y) r :=
    fun r hr => (hx.heard r hr).mono hgrow hlog
  have hheard' : ∀ r ∈ received', Heard address (Function.update net x party) y (address x) r :=
    fun r hr => (hy.heard r hr).mono hgrow (hother ▸ List.prefix_rfl)
  -- the other side stays as it is
  have hpeer' : ∀ r, peerOf address (Function.update net x party) y x r =
      peerOf address net y x r := by
    intro r
    simp only [peerOf, mail, hother]
  have hmail : mail address (Function.update net x party) x y = mail address net x y ++
      (sentPackets (net x).config party.config act).filter (·.address = address y) := by
    simp only [mail, hself, houtbox, List.filter_append]
  have hpeer : ∀ r, peerOf address (Function.update net x party) x y r =
      ⟨party.config.toward (address y), ((mail address net x y) ++
        (sentPackets (net x).config party.config act).filter (·.address = address y)).map
          (·.header), r⟩ := by
    intro r
    rw [← hmail, peerOf, hself]
  obtain ⟨hn, hn'⟩ := hshort
  rw [← List.length_map (f := StreamPacket.header)] at hn hn'
  cases streamStep_toward (hinv.contents x) (hinv.held x) hnumbered
    (fun _ _ hp => hp.fits hinv) hkeep hstep with
  | kept hreports hcount hsent =>
    rw [hsent, List.append_nil] at hpeer
    refine ⟨received, received', ⟨?_, hheard⟩, ⟨?_, hheard'⟩⟩
    · rw [hpeer, hpeer']
      exact hx.peer.updated hreports (hcount _ hx.peer.ring)
    · rw [hpeer, hpeer']
      exact hy.peer.other_sends (le_refl _) rfl
  | @sent ref size p hreports hcount hpacket hheader hsent =>
    rw [hsent, List.map_append] at hpeer
    have hupdated := hx.peer.updated hreports (hcount _ hx.peer.ring)
    have hadvanced := hupdated.send hn hpacket
    refine ⟨received, received', ⟨?_, hheard⟩, ⟨?_, hheard'⟩⟩
    · rw [hpeer, hpeer', List.map_singleton, hheader]
      exact hadvanced
    · rw [hpeer, hpeer']
      refine hy.peer.other_sends ?_ rfl
      show ((mail address net x y).map _).length ≤ _
      rw [List.length_append]
      exact Nat.le_add_right _ _
  | @received i p object hlaw hreport htoward hreceived hevent hsame hsent =>
    rw [hsent, List.filter_nil, List.append_nil] at hpeer
    -- the packet is one of those the other side has sent
    obtain ⟨k, hk⟩ := List.mem_iff_getElem?.1
      (List.mem_map_of_mem (f := StreamPacket.header) (hlaw.mail hinjective))
    have hklt := (List.getElem?_eq_some_iff.1 hk).1
    have hsequence : p.header.sequence = k := hy.peer.numbered k p.header hk
    have hack : p.header.ack < 65535 := by
      rcases (hy.peer.headers p.header (List.mem_of_getElem? hk)).last with hzero | hmem
      · omega
      · exact (hy.peer.received_lt _ hmem).trans hn
    rw [Nat.mod_eq_of_lt (by omega), Nat.mod_eq_of_lt (by omega)] at hreceived
    have hack' : (UInt32.ofNat p.header.ack).toNat = p.header.ack := by
      rw [UInt32.toNat_ofNat', Nat.mod_eq_of_lt (by omega)]
    have hnear := hfresh _ hreport
    dsimp only at hnear
    rw [hack', ← htoward] at hnear
    have hdelivered := hx.peer.deliver hy.peer hn hn' hk hnear hreceived
    refine ⟨p.header.sequence :: received, received', ⟨?_, fun r hr => ?_⟩, ⟨?_, hheard'⟩⟩
    · rw [hpeer, hpeer']
      exact hdelivered
    · rcases List.mem_cons.1 hr with rfl | hr
      · refine ⟨p, object, hlaw.mono hgrow, rfl, ?_, hsame⟩
        rw [hself]
        exact hevent
      · exact hheard r hr
    · rw [hpeer, hpeer']
      exact hy.peer.other_receives rfl (List.subset_cons_self _ _)

/-- No removal is queued up by a step that requests none. -/
theorem keeps_partyStep {z : ι} {other : NetAddr} (hinv : NetworkInv address net)
    (hparty : streamPartyStep (net x) act = some party)
    (hkeeps : .remove other ∉ (net z).config.streamDispatchQueue)
    (hact : x = z → act.removes ≠ some other) :
    .remove other ∉ (Function.update net x party z).config.streamDispatchQueue := by
  by_cases hz : z = x
  · subst hz
    rw [Function.update_self]
    intro hmem
    obtain ⟨sent, hnumbered⟩ := hinv.numbered z
    rcases streamStep_removes hnumbered.table (streamPartyStep_eq hparty).1 hmem with hold | hnew
    · exact hkeeps hold
    · exact hact rfl hnew
  · rwa [Function.update_of_ne hz]

theorem mail_grows (hparty : streamPartyStep (net x) act = some party) (z w : ι) :
    (mail address net z w).length ≤
      (mail address (Function.update net x party) z w).length := by
  by_cases hz : z = x
  · subst hz
    rw [mail, mail, Function.update_self, (streamPartyStep_eq hparty).2, List.filter_append,
      List.length_append]
    exact Nat.le_add_right _ _
  · rw [mail, mail, Function.update_of_ne hz]

/-- A step of any party. -/
theorem AckInv.partyStep {z : ι} (h : AckInv address x y net) (hfits : act.Fits)
    (hread : Authentic (SentTo address net z) act)
    (hinjective : Function.Injective address) (hxy : x ≠ y)
    (hfresh : FreshReport (net z).config act) (hx : z = x → act.removes ≠ some (address y))
    (hy : z = y → act.removes ≠ some (address x))
    (hparty : streamPartyStep (net z) act = some party) :
    AckInv address x y (Function.update net z party) where
  network := h.network.party hfits hread hparty
  keeps := keeps_partyStep h.network hparty h.keeps hx
  keeps' := keeps_partyStep h.network hparty h.keeps' hy
  pair := by
    rintro ⟨hshort, hshort'⟩
    have hmail : ShortMail address net x y :=
      ⟨(mail_grows hparty x y).trans_lt hshort, (mail_grows hparty y x).trans_lt hshort'⟩
    have hhead : ∀ {w : ι} {other : NetAddr},
        .remove other ∉ (net w).config.streamDispatchQueue →
        (net w).config.head act ≠ some (.remove other) := by
      intro w other hkeeps hhead
      cases act with
      | block stack => exact hkeeps (List.mem_of_mem_head? hhead)
      | _ => cases hhead
    have hpair := h.pair hmail
    by_cases hzx : z = x
    · subst hzx
      exact hpair.partyStep h.network hinjective hxy.symm hmail (hhead h.keeps) hfresh hparty
    · by_cases hzy : z = y
      · subst hzy
        exact (hpair.symm.partyStep h.network hinjective hxy ⟨hmail.2, hmail.1⟩ (hhead h.keeps')
          hfresh hparty).symm
      · obtain ⟨received, received', hside, hside'⟩ := hpair
        have hgrow := outbox_update (streamPartyStep_outbox hparty)
        have hsame : Function.update net z party x = net x :=
          Function.update_of_ne (Ne.symm hzx) _ _
        have hsame' : Function.update net z party y = net y :=
          Function.update_of_ne (Ne.symm hzy) _ _
        exact ⟨received, received', hside.others hsame hsame' hgrow,
          hside'.others hsame' hsame hgrow⟩

/-- **One step** of the network. -/
theorem AckInv.step (h : AckInv address x y net) (hinjective : Function.Injective address)
    (hxy : x ≠ y) {action : NetworkAction ι} (hok : Keeping address x y net action)
    (hstep : networkStep address net action = some net') : AckInv address x y net' := by
  rcases networkStep_cases hstep with rfl | ⟨z, act, party, hparty, rfl, hact⟩
  · exact h
  · rcases hact with ⟨hread, rfl⟩ | ⟨w, k, packet, datagram, rfl, hsent, haddr, rfl⟩
    · obtain ⟨hfits, hfresh, hx, hy⟩ := hok
      have hperform : NetworkAction.Fits (.perform z act) := hfits
      obtain ⟨-, hauthentic⟩ := h.network.authentic hperform (.inl ⟨hread, rfl⟩)
      exact h.partyStep hfits hauthentic hinjective hxy hfresh hx hy hparty
    · obtain ⟨p, hp, hwire⟩ := h.network.datagram hsent haddr
      refine h.partyStep ?_ ?_ hinjective hxy ?_ ?_ ?_ hparty
      · trivial
      · exact ⟨p, hp, hwire⟩
      · exact nofun
      · exact fun _ => nofun
      · exact fun _ => nofun

/-- **Acknowledged packets were delivered**: over a network that loses, delays, reorders and
duplicates, in a run without a sequence wrap in which the two parties keep their streams to each other
and no packet reports one that has left the ring, every packet in the ring of `x` for `y` that is
marked as acked was sent to `y`, and the application of `y` got its object, as it was provided. -/
theorem acked_packets_delivered {packets : ι → Nat → Vector UInt8 kNetPacketMaxLen}
    {suspendCallback : ι → Bool} {actions : List (NetworkAction ι)}
    (hinjective : Function.Injective address) (hxy : x ≠ y)
    (hrun : run (networkStep address) (networkSetup packets suspendCallback) actions = some net)
    (hok : Along (networkStep address) (Keeping address x y)
      (networkSetup packets suspendCallback) actions)
    (hshort : ShortMail address net x y) {i : Nat}
    (hfind : (net x).config.find (address y) = some i) {j : Nat} {slot : StreamPacketMetadata}
    (hslot : ((net x).config.memory i).reliability.packets[j]? = some slot)
    (hacked : slot.acked = true) :
    ∃ p object, p ∈ (net x).outbox ∧ p.address = address y ∧ p.header.sequence = slot.sequence ∧
      .perform x (.tick p.object) ∈ actions ∧
      .receive (address x) object ∈ (net y).config.log ∧ object.Same p.object := by
  have hinv : AckInv address x y net := run_along (networkSetup_ack packets suspendCallback)
    (fun _ _ _ h hok hstep => h.step hinjective hxy hok hstep) hrun hok
  obtain ⟨received, received', hx, hy⟩ := hinv.pair hshort
  rw [← toward_of_find hfind] at hslot
  obtain ⟨p, object, ⟨z, hz, hp, haddress⟩, hsequence, hevent, hsame⟩ :=
    hy.heard _ (hx.peer.acked j slot hslot hacked)
  obtain rfl := hinjective hz
  exact ⟨p, object, hp, haddress, hsequence, outbox_provided hrun hp, hevent, hsame⟩

end Steps

end Pair

/-- Each of two parties gets the other's first object, and with it the ack of its own. -/
def greetBoth : List (NetworkAction Bool) :=
  greetBack ++ [.perform true .socketBlock, .perform true .write, .deliver false true 0,
    .perform false (.callback 0), .perform false (.block noUpdate)]

theorem acked_packets_delivered_greetBoth : ∃ net,
    run (networkStep pairAddress) (networkSetup (fun _ _ => Vector.replicate _ 0) fun _ => true)
      greetBoth = some net ∧
    ∃ p object, p ∈ (net false).outbox ∧ p.header.sequence = 0 ∧
      .receive (pairAddress false) object ∈ (net true).config.log ∧ object.Same p.object := by
  have hvalues : (run (networkStep pairAddress)
      (networkSetup (fun _ _ => Vector.replicate _ 0) fun _ => true) greetBoth).map (fun net => ((net false).config.find (pairAddress true),
        ((net false).config.memory 0).reliability.packets[0]?.map fun slot =>
          (slot.sequence, slot.acked),
        decide (ShortMail pairAddress net false true))) = some (some 0, some (0, true), true) := by
    decide +kernel
  have hok : Along (networkStep pairAddress) (Keeping pairAddress false true)
      (networkSetup (fun _ _ => Vector.replicate _ 0) fun _ => true) greetBoth := by
    decide +kernel
  obtain ⟨net, hrun, hvalues⟩ := Option.map_eq_some_iff.1 hvalues
  simp only [Prod.mk.injEq, Option.map_eq_some_iff, decide_eq_true_eq] at hvalues
  obtain ⟨hfind, ⟨slot, hslot, hsequence, hacked⟩, hshort⟩ := hvalues
  have hinjective : Function.Injective pairAddress := by
    intro x y hxy
    cases x <;> cases y <;> first | rfl | exact absurd hxy (by decide)
  obtain ⟨p, object, hp, -, hp', -, hevent, hsame⟩ :=
    acked_packets_delivered hinjective (by decide) hrun hok hshort hfind hslot hacked
  exact ⟨net, hrun, p, object, hp, hp'.trans hsequence, hevent, hsame⟩

end UniversalNetwork
