import UniversalNetwork.StreamConfiguration.Contents
import UniversalNetwork.StreamConfiguration.Safety

/-!
# Sockets with streams, and a network between them

Any number of parties each run the streams of a socket. The network hands a party any datagram for its
address that another one has given to `sendto`, at any time, in any order and any number of times, or
never: it loses, delays, reorders and duplicates. All else is a step of the streams of one party.

Ghost state of a party: the packets it sent on its streams (`outbox`).

* `stream_objects_authentic`: no run of parties with a suspend callback faults, and an object that a
  party receives from an address was provided for it at a tick of a party with that address.
-/

namespace UniversalNetwork

open Lib

/-! ## Parties -/

structure StreamParty where
  config : StreamConfiguration
  outbox : List StreamPacket

def streamPartyStep (party : StreamParty) (action : StreamAction) : Option StreamParty :=
  (streamStep party.config action).map fun config =>
    { config, outbox := party.outbox ++ sentPackets party.config config action }

theorem streamPartyStep_eq {party party' : StreamParty} {action : StreamAction}
    (h : streamPartyStep party action = some party') :
    streamStep party.config action = some party'.config ∧
      party'.outbox = party.outbox ++ sentPackets party.config party'.config action := by
  obtain ⟨config, hstep, rfl⟩ := Option.map_eq_some_iff.1 h
  exact ⟨hstep, rfl⟩

theorem streamPartyStep_outbox {party party' : StreamParty} {action : StreamAction}
    (h : streamPartyStep party action = some party') : party.outbox ⊆ party'.outbox := by
  rw [(streamPartyStep_eq h).2]
  exact List.subset_append_left _ _

/-! ## The network -/

section Network

variable {ι : Type}

abbrev StreamNetwork (ι : Type) := ι → StreamParty

inductive NetworkAction (ι : Type)
  /-- A step of a party, but for reading a datagram: datagrams come from the network. -/
  | perform (x : ι) (action : StreamAction)
  /-- The network delivers the `k`-th datagram of `y` to `x`, if it is addressed to `x`. -/
  | deliver (x y : ι) (k : Nat)

def networkStep [DecidableEq ι] (address : ι → NetAddr) (net : StreamNetwork ι) :
    NetworkAction ι → Option (StreamNetwork ι)
  | .perform _ (.read (.datagram _)) => some net
  | .perform x action => (streamPartyStep (net x) action).map (Function.update net x)
  | .deliver x y k =>
    match (net y).config.socket.sent[k]? with
    | none => some net
    | some (_, datagram) =>
      if datagram.addr = address x then
        (streamPartyStep (net x) (.read (.datagram { datagram with addr := address y }))).map
          (Function.update net x)
      else some net

def networkSetup (packets : ι → Nat → Vector UInt8 kNetPacketMaxLen)
    (suspendCallback : ι → Bool) : StreamNetwork ι :=
  fun x => ⟨streamSetup (packets x) (suspendCallback x), []⟩

variable {address : ι → NetAddr} {net net' : StreamNetwork ι} {x y : ι}

/-- The packets for `x` that a party with this address has sent. -/
def SentTo (address : ι → NetAddr) (net : StreamNetwork ι) (x : ι) (sender : NetAddr)
    (p : StreamPacket) : Prop :=
  ∃ y, address y = sender ∧ p ∈ (net y).outbox ∧ p.address = address x

/-- A step of the network is a step of one party; what it reads, another one has sent to it. -/
theorem networkStep_cases [DecidableEq ι] {action : NetworkAction ι}
    (h : networkStep address net action = some net') :
    net' = net ∨ ∃ x act party, streamPartyStep (net x) act = some party ∧
      net' = Function.update net x party ∧
      ((∀ datagram, act ≠ .read (.datagram datagram)) ∧ action = .perform x act ∨
        ∃ y k packet datagram, action = .deliver x y k ∧
          (net y).config.socket.sent[k]? = some (packet, datagram) ∧ datagram.addr = address x ∧
          act = .read (.datagram { datagram with addr := address y })) := by
  cases action with
  | perform x act =>
    by_cases hread : ∃ datagram, act = .read (.datagram datagram)
    · obtain ⟨datagram, rfl⟩ := hread
      exact .inl (Option.some.inj h).symm
    · have hread' : ∀ datagram, act ≠ .read (.datagram datagram) := fun d hd => hread ⟨d, hd⟩
      have hstep : networkStep address net (.perform x act) =
          (streamPartyStep (net x) act).map (Function.update net x) := by
        cases act with
        | read recvfrom => cases recvfrom <;> first | rfl | exact absurd rfl (hread' _)
        | _ => rfl
      rw [hstep] at h
      obtain ⟨party, hparty, rfl⟩ := Option.map_eq_some_iff.1 h
      exact .inr ⟨x, act, party, hparty, rfl, .inl ⟨hread', rfl⟩⟩
  | deliver x y k =>
    cases hsent : (net y).config.socket.sent[k]? with
    | none =>
      rw [networkStep, hsent] at h
      exact .inl (Option.some.inj h).symm
    | some sent =>
      obtain ⟨packet, datagram⟩ := sent
      rw [networkStep, hsent] at h
      dsimp only at h
      split at h
      · rename_i haddr
        obtain ⟨party, hparty, rfl⟩ := Option.map_eq_some_iff.1 h
        exact .inr ⟨x, _, party, hparty, rfl, .inr ⟨y, k, packet, datagram, rfl, hsent, haddr, rfl⟩⟩
      · exact .inl (Option.some.inj h).symm

/-! ## Invariants -/

structure NetworkInv (address : ι → NetAddr) (net : StreamNetwork ι) : Prop where
  held : ∀ x, StreamHeld (net x).config []
  numbered : ∀ x, ∃ sent, Numbered sent (net x).config
  contents : ∀ x, StreamContents (· ∈ (net x).outbox) (SentTo address net x) (net x).config
  fits : ∀ x, ∀ p ∈ (net x).outbox, p.object.Fits

def NetworkAction.Fits : NetworkAction ι → Prop
  | .perform _ action => action.Fits
  | .deliver _ _ _ => True

instance : DecidablePred (@NetworkAction.Fits ι)
  | .perform _ action => inferInstanceAs (Decidable action.Fits)
  | .deliver _ _ _ => .isTrue trivial

theorem actions_fit {actions : List (NetworkAction ι)}
    (hfits : ∀ x object, .perform x (.tick object) ∈ actions → object.Fits)
    (_net : StreamNetwork ι) : ∀ action ∈ actions, action.Fits := by
  intro action haction
  cases action with
  | perform x act =>
    cases act with
    | tick object => exact hfits x object haction
    | _ => trivial
  | deliver x y k => trivial

theorem fits_of_forall {actions : List (NetworkAction ι)} (h : ∀ action ∈ actions, action.Fits)
    (x : ι) (object : StreamObject) (hmem : .perform x (.tick object) ∈ actions) : object.Fits :=
  h _ hmem

theorem networkSetup_inv (packets : ι → Nat → Vector UInt8 kNetPacketMaxLen)
    (suspendCallback : ι → Bool) : NetworkInv address (networkSetup packets suspendCallback) where
  held := fun x => streamHeld_setup (packets x) _
  numbered := fun x => ⟨_, numbered_setup (packets x) _⟩
  contents := fun x => streamContents_setup (packets x) _
  fits := nofun

theorem SentTo.mono {sender : NetAddr} {p : StreamPacket} (h : SentTo address net x sender p)
    (hgrow : ∀ y, (net y).outbox ⊆ (net' y).outbox) : SentTo address net' x sender p := by
  obtain ⟨y, hy, hp, hx⟩ := h
  exact ⟨y, hy, hgrow y hp, hx⟩

theorem SentTo.fits (h : NetworkInv address net) {sender : NetAddr} {p : StreamPacket}
    (hp : SentTo address net x sender p) : p.object.Fits := by
  obtain ⟨y, -, hp, -⟩ := hp
  exact h.fits y p hp

/-- What a datagram carries that is addressed to `x`. -/
theorem NetworkInv.datagram (h : NetworkInv address net) {k packet : Nat} {datagram : Datagram}
    (hsent : (net y).config.socket.sent[k]? = some (packet, datagram))
    (haddr : datagram.addr = address x) :
    ∃ p, SentTo address net x (address y) p ∧ datagram.bytes = p.wire := by
  obtain ⟨p, hp, hto, hwire⟩ := (h.contents y).sent _ (List.mem_of_getElem? hsent)
  exact ⟨p, ⟨y, rfl, hp, hto.trans haddr⟩, hwire⟩

/-- The step that a party makes in a step of the network, and that what it reads was sent to it. -/
theorem NetworkInv.authentic (h : NetworkInv address net) {action : NetworkAction ι}
    {act : StreamAction} (hfits : action.Fits)
    (hact : (∀ datagram, act ≠ .read (.datagram datagram)) ∧ action = .perform x act ∨
      ∃ y k packet datagram, action = .deliver x y k ∧
        (net y).config.socket.sent[k]? = some (packet, datagram) ∧ datagram.addr = address x ∧
        act = .read (.datagram { datagram with addr := address y })) :
    act.Fits ∧ Authentic (SentTo address net x) act := by
  rcases hact with ⟨hread, rfl⟩ | ⟨y, k, packet, datagram, -, hsent, haddr, rfl⟩
  · refine ⟨hfits, ?_⟩
    cases act with
    | read recvfrom => cases recvfrom <;> first | trivial | exact absurd rfl (hread _)
    | _ => trivial
  · obtain ⟨p, hp, hwire⟩ := h.datagram hsent haddr
    exact ⟨trivial, p, hp, hwire⟩

section Steps

variable [DecidableEq ι]

theorem outbox_update {party : StreamParty} (hgrow : (net x).outbox ⊆ party.outbox) (y : ι) :
    (net y).outbox ⊆ (Function.update net x party y).outbox := by
  by_cases hy : y = x
  · subst hy
    rwa [Function.update_self]
  · rw [Function.update_of_ne hy]
    exact List.Subset.refl _

/-- A step of a party that reads what was sent to it. -/
theorem NetworkInv.party (h : NetworkInv address net) {act : StreamAction} {party : StreamParty}
    (hfits : act.Fits) (hread : Authentic (SentTo address net x) act)
    (hparty : streamPartyStep (net x) act = some party) :
    NetworkInv address (Function.update net x party) := by
  obtain ⟨hstep, houtbox⟩ := streamPartyStep_eq hparty
  have hgrow := streamPartyStep_outbox hparty
  obtain ⟨sent, hnumbered⟩ := h.numbered x
  have hcontents : StreamContents (· ∈ party.outbox) (SentTo address net x) party.config := by
    refine streamStep_contents ((h.contents x).mono (fun p hp => hgrow hp) fun _ _ hp => hp)
      (h.held x) hnumbered.table (fun _ _ hp => hp.fits h) hfits hread hstep fun p hp => ?_
    rw [houtbox]
    exact List.mem_append_right _ hp
  constructor
  · intro z
    by_cases hz : z = x
    · subst hz
      rw [Function.update_self]
      exact streamStep_held (h.held z) hstep
    · rw [Function.update_of_ne hz]
      exact h.held z
  · intro z
    by_cases hz : z = x
    · subst hz
      rw [Function.update_self]
      exact ⟨_, hnumbered.step hstep⟩
    · rw [Function.update_of_ne hz]
      exact h.numbered z
  · intro z
    by_cases hz : z = x
    · subst hz
      rw [Function.update_self]
      exact hcontents.mono (fun _ hp => hp) fun _ _ hp => hp.mono (outbox_update hgrow)
    · rw [Function.update_of_ne hz]
      exact (h.contents z).mono (fun _ hp => hp) fun _ _ hp => hp.mono (outbox_update hgrow)
  · intro z p hp
    by_cases hz : z = x
    · subst hz
      rw [Function.update_self, houtbox] at hp
      rcases List.mem_append.1 hp with hp | hp
      · exact h.fits z p hp
      · cases act with
        | tick object =>
          obtain ⟨i, -, -, rfl⟩ := mem_tickPackets.1 hp
          exact hfits
        | _ => cases hp
    · rw [Function.update_of_ne hz] at hp
      exact h.fits z p hp

/-- **One step** of the network. -/
theorem NetworkInv.step (h : NetworkInv address net) {action : NetworkAction ι}
    (hfits : action.Fits) (hstep : networkStep address net action = some net') :
    NetworkInv address net' := by
  rcases networkStep_cases hstep with rfl | ⟨x, act, party, hparty, rfl, hact⟩
  · exact h
  · obtain ⟨hfits', hread⟩ := h.authentic hfits hact
    exact h.party hfits' hread hparty

/-- Every party has a suspend callback. -/
def Callbacks (net : StreamNetwork ι) : Prop := ∀ x, (net x).config.suspendCallback = true

theorem Callbacks.step (h : Callbacks net) {action : NetworkAction ι}
    (hstep : networkStep address net action = some net') : Callbacks net' := by
  rcases networkStep_cases hstep with rfl | ⟨x, act, party, hparty, rfl, -⟩
  · exact h
  · intro z
    by_cases hz : z = x
    · subst hz
      rw [Function.update_self, streamStep_callback (streamPartyStep_eq hparty).1]
      exact h z
    · rw [Function.update_of_ne hz]
      exact h z

theorem networkStep_isSome (h : NetworkInv address net) (hcallbacks : Callbacks net)
    (action : NetworkAction ι) : ∃ net', networkStep address net action = some net' := by
  have hparty : ∀ x act, ∃ party, streamPartyStep (net x) act = some party := by
    intro x act
    obtain ⟨sent, hnumbered⟩ := h.numbered x
    obtain ⟨config, hconfig⟩ := Option.isSome_iff_exists.1
      ((streamStep_isSome_iff hnumbered (h.held x) act).2 fun _ => hcallbacks x)
    exact ⟨_, Option.map_eq_some_iff.2 ⟨config, hconfig, rfl⟩⟩
  cases action with
  | perform x act =>
    obtain ⟨party, hstep⟩ := hparty x act
    have hmap : ((streamPartyStep (net x) act).map (Function.update net x)) =
        some (Function.update net x party) := Option.map_eq_some_iff.2 ⟨party, hstep, rfl⟩
    cases act with
    | read recvfrom =>
      cases recvfrom with
      | datagram datagram => exact ⟨net, rfl⟩
      | error => exact ⟨_, hmap⟩
    | _ => exact ⟨_, hmap⟩
  | deliver x y k =>
    cases hsent : (net y).config.socket.sent[k]? with
    | none => exact ⟨net, by rw [networkStep, hsent]⟩
    | some sent =>
      obtain ⟨packet, datagram⟩ := sent
      obtain ⟨party, hstep⟩ := hparty x (.read (.datagram { datagram with addr := address y }))
      rw [networkStep, hsent]
      dsimp only
      split
      · exact ⟨_, Option.map_eq_some_iff.2 ⟨party, hstep, rfl⟩⟩
      · exact ⟨net, rfl⟩

/-! ## Authentic objects -/

/-- What a party has sent, its application provided at a tick. -/
theorem outbox_provided {packets : ι → Nat → Vector UInt8 kNetPacketMaxLen}
    {suspendCallback : ι → Bool} {actions : List (NetworkAction ι)}
    (hrun : run (networkStep address) (networkSetup packets suspendCallback) actions = some net)
    {p : StreamPacket} (hp : p ∈ (net y).outbox) : .perform y (.tick p.object) ∈ actions := by
  refine run_history (P := fun actions (net : StreamNetwork ι) => ∀ y, ∀ p ∈ (net y).outbox,
    .perform y (.tick p.object) ∈ actions) (fun _ _ hp => absurd hp List.not_mem_nil) ?_ hrun y p hp
  intro actions net action net' h hstep z p hp
  rcases networkStep_cases hstep with rfl | ⟨x, act, party, hparty, rfl, hact⟩
  · exact List.mem_append_left _ (h z p hp)
  · by_cases hz : z = x
    · subst hz
      rw [Function.update_self, (streamPartyStep_eq hparty).2] at hp
      rcases List.mem_append.1 hp with hp | hp
      · exact List.mem_append_left _ (h z p hp)
      · cases act with
        | tick object =>
          obtain ⟨i, -, -, rfl⟩ := mem_tickPackets.1 hp
          rcases hact with ⟨-, rfl⟩ | ⟨_, _, _, _, -, -, -, heq⟩
          · exact List.mem_append_right _ List.mem_cons_self
          · cases heq
        | _ => cases hp
    · rw [Function.update_of_ne hz] at hp
      exact List.mem_append_left _ (h z p hp)

/-- **No party faults** that has a suspend callback. -/
theorem network_isSome (packets : ι → Nat → Vector UInt8 kNetPacketMaxLen)
    {suspendCallback : ι → Bool} {actions : List (NetworkAction ι)}
    (hfits : ∀ x object, .perform x (.tick object) ∈ actions → object.Fits)
    (hcallbacks : ∀ x, suspendCallback x = true) :
    ∃ net, run (networkStep address) (networkSetup packets suspendCallback) actions = some net := by
  obtain ⟨net, hrun, -⟩ := @run_along_safe _ _ (networkStep address) (fun _ action => action.Fits)
    (fun net => NetworkInv address net ∧ Callbacks net) _
    ⟨networkSetup_inv packets suspendCallback, hcallbacks⟩
    (fun net action h hok => by
      obtain ⟨net', hstep⟩ := networkStep_isSome h.1 h.2 action
      exact ⟨net', hstep, h.1.step hok hstep, h.2.step hstep⟩) _
    (along_of_forall (actions_fit hfits) _)
  exact ⟨net, hrun⟩

theorem network_run {packets : ι → Nat → Vector UInt8 kNetPacketMaxLen}
    {suspendCallback : ι → Bool} {actions : List (NetworkAction ι)}
    (hfits : ∀ x object, .perform x (.tick object) ∈ actions → object.Fits)
    (hrun : run (networkStep address) (networkSetup packets suspendCallback) actions = some net) :
    NetworkInv address net :=
  run_along (networkSetup_inv packets suspendCallback) (fun _ _ _ h hok hstep => h.step hok hstep)
    hrun (along_of_forall (actions_fit hfits) _)

/-- **Received objects are authentic**: over a network that loses, delays, reorders and duplicates,
with any number of parties whose objects are no longer than their arrays, no run faults if every party
has a suspend callback. In every run that does not fault, every object that a party receives has the
tag, the length and the bytes of one that a party with the address of the sender provided at a tick and
sent to it. -/
theorem stream_objects_authentic (address : ι → NetAddr)
    (packets : ι → Nat → Vector UInt8 kNetPacketMaxLen) (suspendCallback : ι → Bool)
    (actions : List (NetworkAction ι))
    (hfits : ∀ x object, .perform x (.tick object) ∈ actions → object.Fits) :
    ((∀ x, suspendCallback x = true) → ∃ net,
      run (networkStep address) (networkSetup packets suspendCallback) actions = some net) ∧
    ∀ net, run (networkStep address) (networkSetup packets suspendCallback) actions = some net →
      ∀ x sender object, .receive sender object ∈ (net x).config.log →
        ∃ y p, address y = sender ∧ p ∈ (net y).outbox ∧ p.address = address x ∧
          .perform y (.tick p.object) ∈ actions ∧ object.Same p.object := by
  refine ⟨network_isSome packets hfits, fun net hrun x sender object hlog => ?_⟩
  obtain ⟨p, ⟨y, hy, hp, hx⟩, hsame⟩ := ((network_run hfits hrun).contents x).log sender object hlog
  exact ⟨y, p, hy, hp, hx, outbox_provided hrun hp, hsame⟩

end Steps

end Network

def pairAddress : Bool → NetAddr
  | false => ⟨2, 1, 1⟩
  | true => ⟨2, 2, 2⟩

def greeting : StreamObject := ⟨patch (Vector.replicate _ 0) [1, 2, 3], 3, 7⟩

/-- Two parties add each other, and one sends the other an object at its third tick. -/
def greet : List (NetworkAction Bool) :=
  [.perform false (.add (pairAddress true)), .perform false (.block noUpdate),
    .perform true (.add (pairAddress false)), .perform true (.block noUpdate),
    .perform false (.tick greeting), .perform false (.tick greeting),
    .perform false (.tick greeting), .perform false .socketBlock, .perform false .write,
    .deliver true false 0, .perform true (.callback 0), .perform true (.block noUpdate)]

theorem stream_objects_authentic_greet : ∃ net,
    run (networkStep pairAddress) (networkSetup (fun _ _ => Vector.replicate _ 0) fun _ => true) greet =
      some net ∧
      .receive (pairAddress false) greeting ∈ (net true).config.log ∧
      ∃ y p, pairAddress y = pairAddress false ∧ p ∈ (net y).outbox ∧
        .perform y (.tick p.object) ∈ greet ∧ greeting.Same p.object := by
  have hlog : (run (networkStep pairAddress)
      (networkSetup (fun _ _ => Vector.replicate _ 0) fun _ => true) greet).map (fun net => (net true).config.log) =
        some [.receive (pairAddress false) greeting] := by
    decide +kernel
  have hfits : ∀ x object, .perform x (.tick object) ∈ greet → object.Fits :=
    fits_of_forall (by decide +kernel)
  obtain ⟨hsafe, hall⟩ := stream_objects_authentic pairAddress
    (fun _ _ => Vector.replicate _ 0) (fun _ => true) greet hfits
  obtain ⟨net, hrun⟩ := hsafe fun _ => rfl
  have hmem : .receive (pairAddress false) greeting ∈ (net true).config.log := by
    rw [hrun, Option.map_some, Option.some.injEq] at hlog
    rw [hlog]
    exact List.mem_cons_self
  obtain ⟨y, p, hy, hp, -, hprovided, hsame⟩ := hall net hrun true _ _ hmem
  exact ⟨net, hrun, hmem, y, p, hy, hp, hprovided, hsame⟩

end UniversalNetwork
