import UniversalNetwork.StreamConfiguration.Network

/-!
# What the packets of a stream report

A packet carries the last sequence its sender has received and a bit field of the 32 up to it.
`Reception` is what the block of a packet of the network does, and `Heard` says that the application
of a party got the object of the packet with a sequence.

* `reports_heard`: every bit of every packet that a party has sent stands for an object that its
  application got, also over a wrap of the sequence.
-/

namespace UniversalNetwork

open Lib

/-! ## The log only grows -/

section Log

variable {config config' : StreamConfiguration}

theorem Quiet.log (h : Quiet config config') : config.log <+: config'.log := by
  induction h with
  | refl => exact List.prefix_rfl
  | queues _ _ _ _ _ _ _ hlog ih => exact hlog ▸ ih
  | note _ event _ _ ih => exact ih.trans (List.prefix_append _ _)
  | setStream _ i stream _ _ _ ih => exact ih

theorem log_suspend (config : StreamConfiguration) : config.log <+: config.suspended.log := by
  unfold StreamConfiguration.suspended
  split
  · exact List.prefix_append _ _
  · exact List.prefix_rfl

theorem log_resume (config : StreamConfiguration) : config.log <+: (streamResume config).log := by
  unfold streamResume
  split <;> exact List.prefix_rfl

theorem streamStep_log (htable : StreamTable config) {action : StreamAction}
    (hstep : streamStep config action = some config') : config.log <+: config'.log := by
  cases streamStep_move hstep with
  | quiet h _ => exact h.log
  | suspended => exact log_suspend config
  | resumed => exact log_resume config
  | added rest address =>
    unfold streamAddBlock
    split
    · exact List.prefix_rfl
    · exact log_resume (addStream { config with streamDispatchQueue := rest } address)
  | removed rest address =>
    unfold StreamConfiguration.removed
    split
    · exact List.prefix_rfl
    · dsimp only
      split
      · rename_i i _ _
        exact log_suspend { config with
          streamDispatchQueue := rest, streams := config.streams.erase i }
      · exact List.prefix_rfl
  | ticked h =>
    cases streamTimerCallback_tick h with
    | idle _ => exact List.prefix_rfl
    | updated _ hupdate => exact (updateStreams_eq htable.nodup hupdate).1 ▸ List.prefix_rfl
    | @sent config₁ _ _ hupdate hsend =>
      have hlog := (updateStreams_eq htable.nodup hupdate).1
      have hnoted : config.log <+: (config₁.note .update).log := hlog ▸ List.prefix_append _ _
      exact hnoted.trans (sendStreams_quiet .refl hsend).log

end Log

/-! ## Received packets -/

/-- The stream of the sender of a packet, and what the packet reports to it. -/
def packetReport (config : StreamConfiguration) (packet : Nat) : Option (Nat × UInt32 × UInt32) := do
  let ((result, _, ack, ackBitField), socket) ←
    config.socket.onBitstream packet (streamProtocolUnpackHeader 0 0 0)
  if result = .valid then
    let i ← config.find (socket.packet packet).addr
    some (i, ack, ackBitField)
  else none

/-- What the step learns from a packet. -/
def StreamConfiguration.report (config : StreamConfiguration) (action : StreamAction) :
    Option (Nat × UInt32 × UInt32) :=
  match config.head action with
  | some (.receive packet) => packetReport config packet
  | _ => none

/-- The block of a packet of the network: the streams stay as they are, or one of them has processed
the packet, whose ack and bit field are `report`, and the callback got its object. -/
inductive Reception (inn : NetAddr → StreamPacket → Prop) (config config' : StreamConfiguration)
    (report : Option (Nat × UInt32 × UInt32)) : Prop
  | ignored (hmemory : config'.memory = config.memory)
  | processed {sender : NetAddr} {p : StreamPacket} {i : Nat} {object : StreamObject}
    {reliability : StreamReliability} (hlaw : inn sender p) (hfind : config.find sender = some i)
    (hreceived : streamReliabilityPacketReceived (config.memory i).reliability
      (p.header.sequence % 2 ^ 32) (p.header.ack % 2 ^ 32) p.header.ackBits = some reliability)
    (hmemory : config'.memory = Function.update config.memory i
      { config.memory i with timeoutAccumulator := 0, reliability })
    (hlog : config'.log = config.log ++ [.receive sender object]) (hsame : object.Same p.object)
    (hreport : report = some (i, .ofNat p.header.ack, .ofBitVec p.header.ackBits))

section Reception

variable {out : StreamPacket → Prop} {inn : NetAddr → StreamPacket → Prop}
  {config config' : StreamConfiguration} {packet : Nat}

theorem streamReceiveBlock_reception {stack : StreamObject} (hsized : config.socket.Sized)
    (hfits : ∀ address p, inn address p → p.object.Fits)
    (hunread : (config.socket.packet packet).Unread)
    (hkeeps : (config.socket.packet packet).Keeps inn)
    (hblock : streamReceiveBlock config packet stack = some config') :
    Reception inn config config' (packetReport config packet) := by
  obtain ⟨p, hp, hwire⟩ := hkeeps
  cases streamReceiveBlock_receive hblock with
  | invalid _ _ => exact .ignored rfl
  | unknown _ _ => exact .ignored rfl
  | @known i sequence ack ackBitField socket socket' _ received stream _ hheader hfind hdata hreceive
      _ hset =>
    subst hset
    obtain ⟨⟨-, rfl, rfl, rfl⟩, halike, hobject⟩ :=
      unpack_wire hsized hunread (hfits _ p hp) hwire hheader
    obtain ⟨hsame, -⟩ := hobject hdata
    have hreport : packetReport config packet =
        some (i, .ofNat p.header.ack, .ofBitVec p.header.ackBits) := by
      simp only [packetReport, hheader, hfind, Option.bind_eq_bind, Option.bind_some, if_pos]
    rw [(halike packet).addr] at hfind
    unfold streamReceive at hreceive
    split at hreceive
    · obtain ⟨reliability, hreliability, hreceive⟩ := Option.bind_eq_some_iff.1 hreceive
      cases hreceive
      rw [UInt32.toNat_ofNat', UInt32.toNat_ofNat'] at hreliability
      refine .processed hp hfind hreliability rfl ?_ hsame hreport
      have haddress : (config.memory i).address = (config.socket.packet packet).addr :=
        find_address hfind
      exact congrArg (fun address => config.log ++ [StreamEvent.receive address received]) haddress
    · cases hreceive
      exact .ignored (Function.update_eq_self _ _)

/-- A step that accepts a packet for a stream. -/
theorem streamStep_reception {action : StreamAction} {i : Nat}
    (h : StreamContents out inn config) (hheld : StreamHeld config [])
    (hfits : ∀ address p, inn address p → p.object.Fits)
    (haccepts : config.accepts action = some i) (hstep : streamStep config action = some config') :
    Reception inn config config' (config.report action) := by
  cases action with
  | block stack =>
    cases hqueue : config.streamDispatchQueue with
    | nil => simp [StreamConfiguration.accepts, StreamConfiguration.head, hqueue] at haccepts
    | cons block rest =>
      simp only [streamStep, hqueue] at hstep
      cases block with
      | receive packet =>
        have hmem : packet ∈ config.held :=
          (streamsHeld_receive hqueue).symm.subset List.mem_cons_self
        have hreception := @streamReceiveBlock_reception inn
          { config with streamDispatchQueue := rest } config' packet stack hheld.sized hfits
          (hheld.unread packet hmem) (h.received packet hmem) hstep
        cases hreception with
        | ignored hmemory => exact .ignored hmemory
        | processed hlaw hfind hreceived hmemory hlog hsame hreport =>
          refine .processed hlaw hfind hreceived hmemory hlog hsame ?_
          simp only [StreamConfiguration.report, StreamConfiguration.head, hqueue, List.head?_cons]
          exact hreport
      | add _ | remove _ | timeout _ =>
        simp [StreamConfiguration.accepts, StreamConfiguration.head, hqueue] at haccepts
  | add _ | remove _ | suspend | resume | tick _ | read _ | callback _ | socketBlock | write =>
    simp [StreamConfiguration.accepts, StreamConfiguration.head] at haccepts

end Reception

/-! ## What a stream reports -/

section Ack

variable {ref ref' : StreamReliability}

theorem packetSent_ack {size : Nat} (h : streamReliabilityPacketSent ref size = some ref') :
    ref'.ack = ref.ack ∧ ref'.ackBits = ref.ackBits := by
  obtain ⟨packets, -, h⟩ := Option.bind_eq_some_iff.1 h
  dsimp only at h
  split at h
  · cases h
    rw [discardOverwritten_eq]
    exact ⟨rfl, rfl⟩
  · cases h

theorem packetReceived_ack {sequence ack : Nat} {ackBits : BitVec 32}
    (h : streamReliabilityPacketReceived ref sequence ack ackBits = some ref') :
    ref'.ack = (streamReliabilityProcessSequence ref sequence).ack ∧
      ref'.ackBits = (streamReliabilityProcessSequence ref sequence).ackBits := by
  obtain ⟨r, hr, h⟩ := Option.bind_eq_some_iff.1 h
  cases h
  have hscan := (processAck_scanned hr).1
  exact ⟨hscan.ack, hscan.ackBits⟩

theorem Ticked.ack {stream stream' : Stream} (h : Ticked stream stream') :
    stream'.address = stream.address ∧ stream'.reliability.ack = stream.reliability.ack ∧
      stream'.reliability.ackBits = stream.reliability.ackBits := by
  cases h with
  | updated h =>
    have hreports := Stream.update_reports h
    exact ⟨update_address h, hreports.ack, hreports.ackBits⟩
  | @sent _ stream₁ _ reliability h hsent =>
    have hreports := Stream.update_reports h
    obtain ⟨hack, hackBits⟩ := packetSent_ack hsent
    have haddress : stream₁.address = stream.address := update_address h
    exact ⟨haddress, hack.trans hreports.ack,
      hackBits.trans hreports.ackBits⟩

end Ack

section Network

variable {ι : Type} {address : ι → NetAddr} {net net' : StreamNetwork ι} {x : ι}

/-- The application of `x` got the object of the packet with this sequence. -/
def Heard (address : ι → NetAddr) (net : StreamNetwork ι) (x : ι) (sender : NetAddr)
    (sequence : Nat) : Prop :=
  ∃ p object, SentTo address net x sender p ∧ p.header.sequence = sequence ∧
    .receive sender object ∈ (net x).config.log ∧ object.Same p.object

/-- An ack and its field only speak of packets that were heard. -/
def ReportsHeard (address : ι → NetAddr) (net : StreamNetwork ι) (x : ι) (sender : NetAddr)
    (ack : Nat) (ackBits : BitVec 32) : Prop :=
  ∃ R, AckSound ack ackBits R ∧ ∀ r ∈ R, r < 65535 ∧ Heard address net x sender r

structure ReportsInv (address : ι → NetAddr) (net : StreamNetwork ι) : Prop where
  counted : ∀ x, ∀ p ∈ (net x).outbox, p.header.sequence < 65535
  streams : ∀ x i, ReportsHeard address net x ((net x).config.memory i).address
    ((net x).config.memory i).reliability.ack ((net x).config.memory i).reliability.ackBits
  packets : ∀ x, ∀ p ∈ (net x).outbox,
    ReportsHeard address net x p.address p.header.ack p.header.ackBits

theorem ReportsHeard.mono {sender : NetAddr} {ack : Nat} {ackBits : BitVec 32}
    (h : ReportsHeard address net x sender ack ackBits)
    (hgrow : ∀ y, (net y).outbox ⊆ (net' y).outbox)
    (hlog : (net x).config.log <+: (net' x).config.log) :
    ReportsHeard address net' x sender ack ackBits := by
  obtain ⟨R, hsound, hheard⟩ := h
  refine ⟨R, hsound, fun r hr => ?_⟩
  obtain ⟨hlt, p, object, hp, hsequence, hevent, hsame⟩ := hheard r hr
  exact ⟨hlt, p, object, hp.mono hgrow, hsequence, hlog.subset hevent, hsame⟩

theorem reportsHeard_clear {sender : NetAddr} : ReportsHeard address net x sender
    (streamReliabilityClear .zeroed).ack (streamReliabilityClear .zeroed).ackBits :=
  ⟨[], ⟨.inl rfl, fun k _ hb => by simp [streamReliabilityClear, StreamReliability.zeroed] at hb⟩,
    nofun⟩

theorem networkSetup_reports (packets : ι → Nat → Vector UInt8 kNetPacketMaxLen)
    (suspendCallback : ι → Bool) : ReportsInv address (networkSetup packets suspendCallback) where
  counted := fun _ _ hp => absurd hp List.not_mem_nil
  streams := fun _ _ => reportsHeard_clear
  packets := fun _ _ hp => absurd hp List.not_mem_nil

/-- A packet is processed: what was heard before, and its sequence. -/
theorem ReportsHeard.processed {sender : NetAddr} {ref ref' : StreamReliability} {p : StreamPacket}
    {object : StreamObject} (h : ReportsHeard address net x sender ref.ack ref.ackBits)
    (hp : SentTo address net x sender p) (hcounted : p.header.sequence < 65535)
    (hlog : .receive sender object ∈ (net x).config.log) (hsame : object.Same p.object) {ack : Nat}
    (hreceived : streamReliabilityPacketReceived ref (p.header.sequence % 2 ^ 32) ack
      p.header.ackBits = some ref') : ReportsHeard address net x sender ref'.ack ref'.ackBits := by
  obtain ⟨R, hsound, hheard⟩ := h
  obtain ⟨hack, hackBits⟩ := packetReceived_ack hreceived
  rw [Nat.mod_eq_of_lt (by omega)] at hack hackBits
  refine ⟨p.header.sequence :: R, ?_, fun r hr => ?_⟩
  · rw [hack, hackBits]
    refine hsound.processSequence (fun r hr => ?_) (by omega)
    have hlt := (hheard r hr).1
    omega
  · rcases List.mem_cons.1 hr with rfl | hr
    · exact ⟨hcounted, p, object, hp, rfl, hlog, hsame⟩
    · exact hheard r hr

/-! ## Steps -/

section Steps

variable [DecidableEq ι] {act : StreamAction} {party : StreamParty}

/-- What the streams of the party that makes a step report. -/
theorem ReportsInv.memory (h : ReportsInv address net) (hinv : NetworkInv address net)
    (hparty : streamPartyStep (net x) act = some party) (i : Nat) :
    ReportsHeard address (Function.update net x party) x (party.config.memory i).address
      (party.config.memory i).reliability.ack (party.config.memory i).reliability.ackBits := by
  obtain ⟨hstep, -⟩ := streamPartyStep_eq hparty
  have hgrow := outbox_update (streamPartyStep_outbox hparty)
  obtain ⟨sent, hnumbered⟩ := hinv.numbered x
  have hself : Function.update net x party x = party := Function.update_self _ _ _
  have hlog : (net x).config.log <+: (Function.update net x party x).config.log := by
    rw [hself]
    exact streamStep_log hnumbered.table hstep
  have hold : ∀ j, ReportsHeard address (Function.update net x party) x
      ((net x).config.memory j).address ((net x).config.memory j).reliability.ack
      ((net x).config.memory j).reliability.ackBits := fun j => (h.streams x j).mono hgrow hlog
  cases streamStep_streams hnumbered.table hstep with
  | kept _ _ _ hmemory _ _ _ =>
    rw [hmemory]
    exact hold i
  | created _ _ _ address' hmemory _ _ _ =>
    rw [hmemory]
    by_cases hi : i = (net x).config.streamCount
    · subst hi
      rw [Function.update_self]
      exact reportsHeard_clear
    · rw [Function.update_of_ne hi]
      exact hold i
  | ticked _ _ _ hother hticked _ _ _ =>
    by_cases hi : i ∈ (net x).config.streams
    · obtain ⟨haddress, hack, hackBits⟩ := (hticked i hi).ack
      rw [haddress, hack, hackBits]
      exact hold i
    · rw [hother i hi]
      exact hold i
  | timedOut j _ _ _ hmemory _ _ _ =>
    rw [hmemory]
    by_cases hi : i = j
    · subst hi
      rw [Function.update_self]
      exact hold i
    · rw [Function.update_of_ne hi]
      exact hold i
  | accepted j _ _ _ _ haccepts _ _ _ _ _ _ _ _ =>
    have hreception := streamStep_reception (hinv.contents x) (hinv.held x)
      (fun _ _ hp => hp.fits hinv) haccepts hstep
    cases hreception with
    | ignored hmemory =>
      rw [hmemory]
      exact hold i
    | @processed sender p j object reliability hlaw hfind hreceived hmemory hevent hsame _ =>
      rw [hmemory]
      by_cases hi : i = j
      · subst hi
        have haddress : ((net x).config.memory i).address = sender := find_address hfind
        have hlaw' := hlaw.mono hgrow
        obtain ⟨y, -, hp, -⟩ := hlaw
        have hmem : .receive sender object ∈
            (Function.update net x party x).config.log := by
          rw [hself, hevent]
          exact List.mem_append_right _ List.mem_cons_self
        have hkept := hold i
        rw [haddress] at hkept
        rw [Function.update_self]
        dsimp only
        rw [haddress]
        exact hkept.processed hlaw' (h.counted y p hp) hmem hsame hreceived
      · rw [Function.update_of_ne hi]
        exact hold i

/-- A step of a party. -/
theorem ReportsInv.partyStep (h : ReportsInv address net) (hinv : NetworkInv address net)
    (hparty : streamPartyStep (net x) act = some party) :
    ReportsInv address (Function.update net x party) := by
  obtain ⟨hstep, houtbox⟩ := streamPartyStep_eq hparty
  have hgrow := outbox_update (streamPartyStep_outbox hparty)
  obtain ⟨sent, hnumbered⟩ := hinv.numbered x
  have hlog : ∀ z, (net z).config.log <+: (Function.update net x party z).config.log := by
    intro z
    by_cases hz : z = x
    · subst hz
      rw [Function.update_self]
      exact streamStep_log hnumbered.table hstep
    · have hkept : Function.update net x party z = net z := Function.update_of_ne hz _ _
      exact hkept ▸ List.prefix_rfl
  -- what a step sends says what its stream has said before
  have hsent : ∀ p ∈ sentPackets (net x).config party.config act, ∃ i,
      p.address = ((net x).config.memory i).address ∧
      p.header = ⟨((net x).config.memory i).reliability.sequence,
        ((net x).config.memory i).reliability.ack,
        ((net x).config.memory i).reliability.ackBits⟩ := by
    intro p hp
    cases act with
    | tick object =>
      obtain ⟨i, -, -, rfl⟩ := mem_tickPackets.1 hp
      exact ⟨i, rfl, rfl⟩
    | _ => cases hp
  constructor
  · intro z p hp
    by_cases hz : z = x
    · subst hz
      rw [Function.update_self, houtbox] at hp
      rcases List.mem_append.1 hp with hp | hp
      · exact h.counted z p hp
      · obtain ⟨i, -, hheader⟩ := hsent p hp
        obtain ⟨a, f, hring⟩ := hnumbered.ring i
        rw [hheader]
        exact hring.sequence.trans_lt (Nat.mod_lt _ (by decide))
    · rw [Function.update_of_ne hz] at hp
      exact h.counted z p hp
  · intro z i
    by_cases hz : z = x
    · subst hz
      rw [Function.update_self]
      exact h.memory hinv hparty i
    · have hkept := (h.streams z i).mono hgrow (hlog z)
      rwa [Function.update_of_ne hz]
  · intro z p hp
    by_cases hz : z = x
    · subst hz
      rw [Function.update_self, houtbox] at hp
      rcases List.mem_append.1 hp with hp | hp
      · exact (h.packets z p hp).mono hgrow (hlog z)
      · obtain ⟨i, haddress, hheader⟩ := hsent p hp
        rw [haddress, hheader]
        exact (h.streams z i).mono hgrow (hlog z)
    · rw [Function.update_of_ne hz] at hp
      exact (h.packets z p hp).mono hgrow (hlog z)

/-- **One step** of the network. -/
theorem ReportsInv.step (h : ReportsInv address net) (hinv : NetworkInv address net)
    {action : NetworkAction ι} (hstep : networkStep address net action = some net') :
    ReportsInv address net' := by
  rcases networkStep_cases hstep with rfl | ⟨x, act, party, hparty, rfl, -⟩
  · exact h
  · exact h.partyStep hinv hparty

/-- **What is reported was heard**: over a network that loses, delays, reorders and duplicates, with
any number of packets and any streams added and removed, where objects are no longer than their
arrays, a packet whose bit field has bit `k` was sent by a party whose application got the object of a
packet with the sequence `k` before its ack, as it was provided and sent by a party with the address it
is for. No run faults if every party has a suspend callback. -/
theorem reports_heard (address : ι → NetAddr) (packets : ι → Nat → Vector UInt8 kNetPacketMaxLen)
    (suspendCallback : ι → Bool) (actions : List (NetworkAction ι))
    (hfits : ∀ x object, .perform x (.tick object) ∈ actions → object.Fits) :
    ((∀ x, suspendCallback x = true) → ∃ net,
      run (networkStep address) (networkSetup packets suspendCallback) actions = some net) ∧
    ∀ net, run (networkStep address) (networkSetup packets suspendCallback) actions = some net →
      ∀ x, ∀ p ∈ (net x).outbox, ∀ k < 32, p.header.ackBits.getLsbD k = true →
        Heard address net x p.address ((p.header.ack + 65536 - k) % 65536) := by
  refine ⟨network_isSome packets hfits, fun net hrun x p hp k hk hbit => ?_⟩
  obtain ⟨-, hreports⟩ := @run_along _ _ (networkStep address) (fun _ action => action.Fits)
    (fun net => NetworkInv address net ∧ ReportsInv address net) _
    ⟨networkSetup_inv packets suspendCallback, networkSetup_reports packets suspendCallback⟩
    (fun net action net' h hfit hstep => ⟨h.1.step hfit hstep, h.2.step h.1 hstep⟩) _ _ hrun
    (along_of_forall (actions_fit hfits) _)
  obtain ⟨R, hsound, hheard⟩ := hreports.packets x p hp
  exact (hheard _ (hsound.bits k hk hbit)).2

end Steps

end Network

/-- The party that got the object sends one too. -/
def greetBack : List (NetworkAction Bool) := greet ++ List.replicate 3 (.perform true (.tick greeting))

theorem reports_heard_greetBack : ∃ net,
    run (networkStep pairAddress) (networkSetup (fun _ _ => Vector.replicate _ 0) fun _ => true)
      greetBack = some net ∧ Heard pairAddress net true (pairAddress false) 0 := by
  have houtbox : (run (networkStep pairAddress)
      (networkSetup (fun _ _ => Vector.replicate _ 0) fun _ => true) greetBack).map (fun net => (net true).outbox) =
        some [⟨pairAddress false, ⟨0, 0, 1⟩, greeting⟩] := by
    decide +kernel
  obtain ⟨hsafe, hall⟩ := reports_heard pairAddress (fun _ _ => Vector.replicate _ 0) (fun _ => true)
    greetBack (fits_of_forall (by decide +kernel))
  obtain ⟨net, hrun⟩ := hsafe fun _ => rfl
  rw [hrun, Option.map_some, Option.some.injEq] at houtbox
  exact ⟨net, hrun, hall net hrun true _ (by rw [houtbox]; exact List.mem_cons_self) 0 (by decide) rfl⟩

end UniversalNetwork
