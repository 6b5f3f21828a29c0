import UniversalNetwork.StreamConfiguration.Acknowledged

/-!
# Delivered packets reach the application

`streamReceive` ignores a packet whose ack is above the sequence of its stream. A party acks what it
has heard (`ReportsInv`), so until the sequence of the receiver wraps the check lets every packet of a
peer pass, whatever the network does and however the two have added and removed streams to others.

* `delivered_packets_received`: the block of a packet from the peer hands its object to the
  application.
-/

namespace UniversalNetwork

open Lib

/-! ## The block of a packet -/

section Block

variable {inn : NetAddr → StreamPacket → Prop} {config config' : StreamConfiguration}
  {packet i : Nat} {stack : StreamObject}

/-- What the block leaves behind: the callback has got the object of a packet that the law allows and
the buffer starts with, and the timeout starts anew. -/
structure Forwards (inn : NetAddr → StreamPacket → Prop) (config config' : StreamConfiguration)
    (packet i : Nat) (p : StreamPacket) (object : StreamObject) : Prop where
  law : inn (config.socket.packet packet).addr p
  wire : HasAt (config.socket.packet packet).bitstream.data 0 p.wire
  same : object.Same p.object
  log : config'.log = config.log ++ [.receive (config.socket.packet packet).addr object]
  timeout : (config'.memory i).timeoutAccumulator = 0

/-- A packet of a stream whose sequence no allowed ack is above. -/
theorem streamReceiveBlock_forwards (hsized : config.socket.Sized)
    (hfits : ∀ address p, inn address p → p.object.Fits)
    (hunread : (config.socket.packet packet).Unread)
    (hkeeps : (config.socket.packet packet).Keeps inn)
    (hfind : config.find (config.socket.packet packet).addr = some i)
    (hack : ∀ p, inn (config.socket.packet packet).addr p →
      p.header.ack ≤ (config.memory i).reliability.sequence)
    (hblock : streamReceiveBlock config packet stack = some config') :
    ∃ p object, Forwards inn config config' packet i p object := by
  obtain ⟨p, hp, hwire⟩ := hkeeps
  cases streamReceiveBlock_receive hblock with
  | invalid hheader hinvalid =>
    obtain ⟨⟨hvalid, -⟩, -, -⟩ := unpack_wire hsized hunread (hfits _ p hp) hwire hheader
    exact absurd hvalid hinvalid
  | unknown hheader hnone =>
    obtain ⟨-, halike, -⟩ := unpack_wire hsized hunread (hfits _ p hp) hwire hheader
    rw [(halike packet).addr, hfind] at hnone
    cases hnone
  | @known j _ _ _ socket socket' _ received stream accepted hheader hfound hdata hreceive _ hset =>
    subst hset
    obtain ⟨⟨-, rfl, rfl, rfl⟩, halike, hobject⟩ :=
      unpack_wire hsized hunread (hfits _ p hp) hwire hheader
    obtain ⟨hsame, -⟩ := hobject hdata
    rw [(halike packet).addr, hfind] at hfound
    cases hfound
    -- the check of the ack
    have hpasses : (UInt32.ofNat p.header.ack).toNat ≤ (config.memory i).reliability.sequence := by
      rw [UInt32.toNat_ofNat']
      exact (Nat.mod_le _ _).trans (hack p hp)
    have haddress : (config.memory i).address = (config.socket.packet packet).addr :=
      find_address hfind
    rw [streamReceive, if_pos hpasses] at hreceive
    obtain ⟨reliability, -, hreceive⟩ := Option.bind_eq_some_iff.1 hreceive
    cases hreceive
    refine ⟨p, received, hp, hwire, hsame, ?_, ?_⟩
    · exact congrArg (fun address => config.log ++ [StreamEvent.receive address received]) haddress
    · show (Function.update config.memory i _ i).timeoutAccumulator = 0
      rw [Function.update_self]

end Block

/-! ## The receiver's count -/

section Network

variable {ι : Type} {address : ι → NetAddr} {net net' : StreamNetwork ι} {x y : ι}

/-- Objects fit, and `x` keeps its stream to `y`. -/
def Retaining (address : ι → NetAddr) (x y : ι) (_net : StreamNetwork ι) : NetworkAction ι → Prop
  | .perform z act => act.Fits ∧ (z = x → act.removes ≠ some (address y))
  | .deliver _ _ _ => True

instance [DecidableEq ι] (net : StreamNetwork ι) : DecidablePred (Retaining address x y net)
  | .perform _ _ => inferInstanceAs (Decidable (_ ∧ _))
  | .deliver _ _ _ => .isTrue trivial

/-- The sequence of the stream of `x` to `y` counts the packets sent on it. -/
structure MailCounted (address : ι → NetAddr) (net : StreamNetwork ι) (x y : ι) : Prop where
  sequence : ((net x).config.toward (address y)).sequence = (mail address net x y).length % 65535
  numbered : (mail address net x y).length < 65535 →
    ∀ p ∈ mail address net x y, p.header.sequence < (mail address net x y).length

structure RetainInv (address : ι → NetAddr) (x y : ι) (net : StreamNetwork ι) : Prop where
  network : NetworkInv address net
  reports : ReportsInv address net
  retains : .remove (address y) ∉ (net x).config.streamDispatchQueue
  counted : MailCounted address net x y

theorem networkSetup_retain (packets : ι → Nat → Vector UInt8 kNetPacketMaxLen)
    (suspendCallback : ι → Bool) : RetainInv address x y (networkSetup packets suspendCallback) where
  network := networkSetup_inv packets _
  reports := networkSetup_reports packets _
  retains := List.not_mem_nil
  counted := ⟨rfl, nofun⟩

/-- No packet from `y` acks one that `x` has not sent yet. -/
theorem RetainInv.ack_le (h : RetainInv address x y net) (hinjective : Function.Injective address)
    (hshort : (mail address net x y).length < 65535) {p : StreamPacket}
    (hp : SentTo address net x (address y) p) :
    p.header.ack ≤ ((net x).config.toward (address y)).sequence := by
  obtain ⟨z, hz, hp, haddress⟩ := hp
  obtain rfl := hinjective hz
  obtain ⟨R, hsound, hheard⟩ := h.reports.packets z p hp
  rcases hsound.last with hzero | hmem
  · rw [hzero]
    exact Nat.zero_le _
  · obtain ⟨-, q, object, hq, hsequence, -⟩ := hheard _ hmem
    rw [haddress] at hq
    have hlt := h.counted.numbered hshort q (hq.mail hinjective)
    rw [h.counted.sequence, Nat.mod_eq_of_lt hshort, ← hsequence]
    exact hlt.le

/-- The block of a packet from the peer. -/
theorem RetainInv.forwards (h : RetainInv address x y net)
    (hinjective : Function.Injective address) (hshort : (mail address net x y).length < 65535)
    {packet i : Nat} {rest : List StreamBlock} {config' : StreamConfiguration} {stack : StreamObject}
    (hqueue : (net x).config.streamDispatchQueue = .receive packet :: rest)
    (hsender : ((net x).config.socket.packet packet).addr = address y)
    (hfind : (net x).config.find (address y) = some i)
    (hstep : streamStep (net x).config (.block stack) = some config') :
    ∃ p object, Forwards (SentTo address net x) (net x).config config' packet i p object := by
  have hheld := h.network.held x
  have hmem : packet ∈ (net x).config.held :=
    (streamsHeld_receive hqueue).symm.subset List.mem_cons_self
  simp only [streamStep, hqueue] at hstep
  obtain ⟨p, object, hforwards⟩ := @streamReceiveBlock_forwards (SentTo address net x)
    { (net x).config with streamDispatchQueue := rest } config' packet i stack hheld.sized
    (fun _ _ hp => hp.fits h.network) (hheld.unread packet hmem)
    ((h.network.contents x).received packet hmem) (hsender ▸ hfind)
    (fun p hp => by
      have hack := h.ack_le hinjective hshort (hsender ▸ hp)
      rwa [toward_of_find hfind] at hack) hstep
  exact ⟨p, object, hforwards.law, hforwards.wire, hforwards.same, hforwards.log, hforwards.timeout⟩

section Steps

variable [DecidableEq ι] {act : StreamAction} {party : StreamParty}

theorem head_of_retains {config : StreamConfiguration} {other : NetAddr}
    (h : .remove other ∉ config.streamDispatchQueue) (act : StreamAction) :
    config.head act ≠ some (.remove other) := by
  intro hhead
  cases act with
  | block stack => exact h (List.mem_of_mem_head? hhead)
  | _ => cases hhead

/-- A step of `x`. -/
theorem RetainInv.count (h : RetainInv address x y net)
    (hparty : streamPartyStep (net x) act = some party) :
    MailCounted address (Function.update net x party) x y := by
  obtain ⟨hstep, houtbox⟩ := streamPartyStep_eq hparty
  obtain ⟨sent, hnumbered⟩ := h.network.numbered x
  obtain ⟨hsequence, hbelow⟩ := h.counted
  have hself : Function.update net x party x = party := Function.update_self _ _ _
  have hmail : mail address (Function.update net x party) x y = mail address net x y ++
      (sentPackets (net x).config party.config act).filter (·.address = address y) := by
    simp only [mail, hself, houtbox, List.filter_append]
  have hkept : (party.config.toward (address y)).sequence =
      ((net x).config.toward (address y)).sequence →
      (sentPackets (net x).config party.config act).filter (·.address = address y) = [] →
      MailCounted address (Function.update net x party) x y := by
    intro hsame hnone
    rw [hnone, List.append_nil] at hmail
    refine ⟨?_, ?_⟩
    · rw [hself, hmail, hsame]
      exact hsequence
    · rw [hmail]
      exact hbelow
  cases streamStep_toward (h.network.contents x) (h.network.held x) hnumbered
    (fun _ _ hp => hp.fits h.network) (head_of_retains h.retains act) hstep with
  | kept hreports _ hsent => exact hkept hreports.sequence hsent
  | received _ _ _ hreceived _ _ hsent =>
    exact hkept (packetReceived_sameRing hreceived).sequence (by rw [hsent]; rfl)
  | @sent ref size p hreports _ hpacket hheader hsent =>
    have hadvanced : (party.config.toward (address y)).sequence = (ref.sequence + 1) % 65535 :=
      packetSent_sequence hpacket
    have hstamp : p.header.sequence = (mail address net x y).length % 65535 := by
      rw [hheader]
      exact hreports.sequence.trans hsequence
    have hbefore : ref.sequence = (mail address net x y).length % 65535 :=
      hreports.sequence.trans hsequence
    rw [hsent] at hmail
    refine ⟨?_, ?_⟩
    · rw [hself, hmail, hadvanced, hbefore, List.length_append, List.length_singleton]
      omega
    · rw [hmail, List.length_append, List.length_singleton]
      intro hshort q hq
      rcases List.mem_append.1 hq with hq | hq
      · have hlt := hbelow (by omega) q hq
        omega
      · obtain rfl := List.mem_singleton.1 hq
        omega

/-- A step of any party. -/
theorem RetainInv.partyStep {z : ι} (h : RetainInv address x y net) (hfits : act.Fits)
    (hread : Authentic (SentTo address net z) act)
    (hkeep : z = x → act.removes ≠ some (address y))
    (hparty : streamPartyStep (net z) act = some party) :
    RetainInv address x y (Function.update net z party) where
  network := h.network.party hfits hread hparty
  reports := h.reports.partyStep h.network hparty
  retains := keeps_partyStep h.network hparty h.retains hkeep
  counted := by
    by_cases hzx : z = x
    · subst hzx
      exact h.count hparty
    · have hsame : Function.update net z party x = net x :=
        Function.update_of_ne (Ne.symm hzx) _ _
      have hmail : mail address (Function.update net z party) x y = mail address net x y := by
        rw [mail, mail, hsame]
      refine ⟨?_, ?_⟩
      · rw [hsame, hmail]
        exact h.counted.sequence
      · rw [hmail]
        exact h.counted.numbered

/-- **One step** of the network. -/
theorem RetainInv.step (h : RetainInv address x y net) {action : NetworkAction ι}
    (hok : Retaining address x y net action) (hstep : networkStep address net action = some net') :
    RetainInv address x y net' := by
  rcases networkStep_cases hstep with rfl | ⟨z, act, party, hparty, rfl, hact⟩
  · exact h
  · have hfits : action.Fits := by
      cases action with
      | perform z act => exact hok.1
      | deliver _ _ _ => trivial
    obtain ⟨hfits', hauthentic⟩ := h.network.authentic hfits hact
    refine h.partyStep hfits' hauthentic ?_ hparty
    rcases hact with ⟨-, rfl⟩ | ⟨_, _, _, _, -, -, -, rfl⟩
    · exact hok.2
    · exact fun _ => nofun

/-- **Delivered packets reach the application**: over a network that loses, delays, reorders and
duplicates, in a run in which `x` keeps its stream to `y` and has sent fewer packets on it than a
sequence has values, the block of a packet from `y` does not fault, and it hands the application the
object that `y` has provided and sent in the packet, and starts the timeout of the stream anew. -/
theorem delivered_packets_received {packets : ι → Nat → Vector UInt8 kNetPacketMaxLen}
    {suspendCallback : ι → Bool} {actions : List (NetworkAction ι)}
    (hinjective : Function.Injective address)
    (hrun : run (networkStep address) (networkSetup packets suspendCallback) actions = some net)
    (hok : Along (networkStep address) (Retaining address x y)
      (networkSetup packets suspendCallback) actions)
    (hshort : (mail address net x y).length < 65535) {packet i : Nat} {rest : List StreamBlock}
    (hqueue : (net x).config.streamDispatchQueue = .receive packet :: rest)
    (hsender : ((net x).config.socket.packet packet).addr = address y)
    (hfind : (net x).config.find (address y) = some i) (stack : StreamObject) :
    ∃ config' p object, streamStep (net x).config (.block stack) = some config' ∧
      p ∈ (net y).outbox ∧ p.address = address x ∧ .perform y (.tick p.object) ∈ actions ∧
      HasAt ((net x).config.socket.packet packet).bitstream.data 0 p.wire ∧
      object.Same p.object ∧
      config'.log = (net x).config.log ++ [.receive (address y) object] ∧
      (config'.memory i).timeoutAccumulator = 0 := by
  have hinv : RetainInv address x y net := run_along (networkSetup_retain packets suspendCallback)
    (fun _ _ _ h hok hstep => h.step hok hstep) hrun hok
  obtain ⟨sent, hnumbered⟩ := hinv.network.numbered x
  obtain ⟨config', hstep⟩ := Option.isSome_iff_exists.1
    ((streamStep_isSome_iff hnumbered (hinv.network.held x) (.block stack)).2 (by
      simp only [Suspends, hqueue]
      exact False.elim))
  obtain ⟨p, object, hforwards⟩ := hinv.forwards hinjective hshort hqueue hsender hfind hstep
  obtain ⟨z, hz, hp, haddress⟩ := hforwards.law
  rw [hsender] at hz
  obtain rfl := hinjective hz
  refine ⟨config', p, object, hstep, hp, haddress, outbox_provided hrun hp, hforwards.wire,
    hforwards.same, ?_, hforwards.timeout⟩
  rw [hforwards.log, hsender]

end Steps

end Network

theorem delivered_packets_received_greet : ∃ net config' object,
    run (networkStep pairAddress) (networkSetup (fun _ _ => Vector.replicate _ 0) fun _ => true)
      greet.dropLast = some net ∧
    streamStep (net true).config (.block noUpdate) = some config' ∧
    config'.log = (net true).config.log ++ [.receive (pairAddress false) object] := by
  have hvalues : (run (networkStep pairAddress)
      (networkSetup (fun _ _ => Vector.replicate _ 0) fun _ => true) greet.dropLast).map (fun net => ((net true).config.streamDispatchQueue,
        ((net true).config.socket.packet 0).addr, (net true).config.find (pairAddress false),
        decide ((mail pairAddress net true false).length < 65535))) =
        some ([.receive 0], pairAddress false, some 0, true) := by
    decide +kernel
  have hok : Along (networkStep pairAddress) (Retaining pairAddress true false)
      (networkSetup (fun _ _ => Vector.replicate _ 0) fun _ => true) greet.dropLast := by
    decide +kernel
  obtain ⟨net, hrun, hvalues⟩ := Option.map_eq_some_iff.1 hvalues
  simp only [Prod.mk.injEq, decide_eq_true_eq] at hvalues
  obtain ⟨hqueue, hsender, hfind, hshort⟩ := hvalues
  have hinjective : Function.Injective pairAddress := by
    intro x y hxy
    cases x <;> cases y <;> first | rfl | exact absurd hxy (by decide)
  obtain ⟨config', p, object, hstep, -, -, -, -, -, hlog, -⟩ :=
    delivered_packets_received hinjective hrun hok hshort hqueue hsender hfind noUpdate
  exact ⟨net, config', object, hrun, hstep, hlog⟩

end UniversalNetwork
