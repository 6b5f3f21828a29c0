import UniversalNetwork.StreamConfiguration.Ownership
import UniversalNetwork.StreamConfiguration.Streams
import UniversalNetwork.StreamProtocol.RoundTrip
import UniversalNetwork.StreamReliability.Recency
import UniversalNetwork.StreamReliability.Updates

/-!
# What the packets of the streams hold

`StreamContents out inn config`: the packets to be sent are stream packets that the law `out` allows,
the packets received are ones that `inn` allows from their sender, and the callback got an object only
from such a packet. `streamStep_contents`: a step keeps it, if the packets that a tick sends and those
that are read obey the laws.
-/

namespace UniversalNetwork

open Lib

/-! ## Packets -/

/-- The bytes of an object. -/
def StreamObject.bytes (object : StreamObject) : List UInt8 :=
  object.data.toList.take object.length.toNat

/-- The object says no more than its array has. -/
def StreamObject.Fits (object : StreamObject) : Prop :=
  object.length.toNat ≤ kStreamObjectDataMaxLength

instance : DecidablePred StreamObject.Fits := fun object =>
  inferInstanceAs (Decidable (object.length.toNat ≤ _))

/-- The objects differ at most in the bytes that neither has. -/
structure StreamObject.Same (object object' : StreamObject) : Prop where
  tag : object.tag = object'.tag
  length : object.length = object'.length
  bytes : object.bytes = object'.bytes

/-- A packet of a stream: whom it is for, what it says about its sender, and its object. -/
structure StreamPacket where
  address : NetAddr
  header : StreamHeader
  object : StreamObject
deriving DecidableEq, Repr

def StreamPacket.wire (p : StreamPacket) : List UInt8 :=
  wireStreamHeader (.ofNat p.header.sequence) (.ofNat p.header.ack) (.ofBitVec p.header.ackBits) ++
    wireData p.object.tag p.object.bytes

/-- The packet that `streamSend` makes of an object. -/
def Stream.nextPacket (stream : Stream) (object : StreamObject) : StreamPacket where
  address := stream.address
  header := ⟨stream.reliability.sequence, stream.reliability.ack, stream.reliability.ackBits⟩
  object

section Wire

variable {p : StreamPacket} {object : StreamObject}

theorem StreamObject.Fits.length_bytes (h : object.Fits) :
    object.bytes.length = object.length.toNat := by
  rw [StreamObject.bytes, List.length_take, Vector.length_toList]
  exact Nat.min_eq_left h

theorem StreamObject.Fits.holds (h : object.Fits) :
    ObjectHolds object.data object.bytes object where
  data := by
    refine Vector.ext fun i hi => ?_
    rw [getElem_patch _ _ hi, StreamObject.bytes]
    by_cases hshort : i < object.length.toNat
    · simp [hshort, hi]
    · simp [hshort]
  length := h.length_bytes.symm
  fits := h.length_bytes.trans_le h

theorem length_wire (h : p.object.Fits) : p.wire.length ≤ kNetPacketMaxLen := by
  have hlength := length_wireStream (.ofNat p.header.sequence) (.ofNat p.header.ack)
    (.ofBitVec p.header.ackBits) p.object.tag p.object.bytes
  have hfits : p.object.length.toNat ≤ 231 := h
  have hmax : kNetPacketMaxLen = 256 := rfl
  rw [StreamPacket.wire, hlength, h.length_bytes]
  omega

theorem writes_wire (h : p.object.Fits) :
    Writes (do
      streamProtocolPackHeader (.ofNat p.header.sequence) (.ofNat p.header.ack)
        (.ofBitVec p.header.ackBits)
      streamProtocolPackData p.object) p.wire () :=
  (writes_streamHeader _ _ _).bind h.holds.writes_data

end Wire

/-! ## The packets of the socket -/

/-- The packet is queued for sending. -/
def StreamConfiguration.Sending (config : StreamConfiguration) (i : Nat) : Prop :=
  i ∈ config.socket.socketDispatchQueue ∨ i ∈ config.socket.pendingPackets

section Laws

variable (out : StreamPacket → Prop) (inn : NetAddr → StreamPacket → Prop)

def Bears (address : NetAddr) (bytes : List UInt8) : Prop :=
  ∃ p, out p ∧ p.address = address ∧ bytes = p.wire

/-- The buffer starts with a stream packet of its sender. -/
def NetPacket.Keeps (packet : NetPacket) : Prop :=
  ∃ p, inn packet.addr p ∧ HasAt packet.bitstream.data 0 p.wire

/-- Nothing but the bit stream's offset differs. -/
structure NetPacket.Alike (packet packet' : NetPacket) : Prop where
  addr : packet.addr = packet'.addr
  length : packet.length = packet'.length
  data : packet.bitstream.data = packet'.bitstream.data

structure StreamContents (config : StreamConfiguration) : Prop where
  sent : ∀ e ∈ config.socket.sent, Bears out e.2.addr e.2.bytes
  sending : ∀ i, config.Sending i →
    Bears out (config.socket.packet i).addr (config.socket.packet i).datagram.bytes
  received : ∀ i ∈ config.held, (config.socket.packet i).Keeps inn
  log : ∀ address object, .receive address object ∈ config.log →
    ∃ p, inn address p ∧ object.Same p.object

end Laws

section Rules

variable {out out' : StreamPacket → Prop} {inn inn' : NetAddr → StreamPacket → Prop}
  {config config' : StreamConfiguration} {object : StreamObject} {i packet : Nat}

theorem streamContents_setup (packets : Nat → Vector UInt8 kNetPacketMaxLen)
    (suspendCallback : Bool) :
    StreamContents out inn (streamSetup packets suspendCallback) where
  sent := nofun
  sending := fun i hi => by
    rcases hi with hi | hi
    · cases hi
    · cases hi
  received := nofun
  log := nofun

theorem StreamContents.mono (h : StreamContents out inn config) (hout : ∀ p, out p → out' p)
    (hinn : ∀ address p, inn address p → inn' address p) : StreamContents out' inn' config where
  sent := fun e he => by
    obtain ⟨p, hp, hwire⟩ := h.sent e he
    exact ⟨p, hout p hp, hwire⟩
  sending := fun i hi => by
    obtain ⟨p, hp, hwire⟩ := h.sending i hi
    exact ⟨p, hout p hp, hwire⟩
  received := fun i hi => by
    obtain ⟨p, hp, hwire⟩ := h.received i hi
    exact ⟨p, hinn _ p hp, hwire⟩
  log := fun address object hlog => by
    obtain ⟨p, hp, hsame⟩ := h.log address object hlog
    exact ⟨p, hinn _ p hp, hsame⟩

/-- Packets leave their places, and at most their bit streams move on. -/
theorem StreamContents.same (h : StreamContents out inn config)
    (hpacket : ∀ j, (config'.socket.packet j).Alike (config.socket.packet j))
    (hsent : config'.socket.sent = config.socket.sent)
    (hsending : ∀ j, config'.Sending j → config.Sending j) (hheld : config'.held ⊆ config.held)
    (hlog : ∀ address object, .receive address object ∈ config'.log →
      ∃ p, inn address p ∧ object.Same p.object) : StreamContents out inn config' where
  sent := hsent ▸ h.sent
  sending := fun j hj => by
    obtain ⟨haddr, hlength, hdata⟩ := hpacket j
    obtain ⟨p, hp, haddress, hwire⟩ := h.sending j (hsending j hj)
    refine ⟨p, hp, haddress.trans haddr.symm, ?_⟩
    show (config'.socket.packet j).bitstream.data.take (config'.socket.packet j).length = p.wire
    rw [hlength, hdata]
    exact hwire
  received := fun j hj => by
    obtain ⟨haddr, -, hdata⟩ := hpacket j
    obtain ⟨p, hp, hwire⟩ := h.received j (hheld hj)
    exact ⟨p, haddr ▸ hp, hdata ▸ hwire⟩
  log := hlog

theorem StreamContents.kept (h : StreamContents out inn config)
    (hsocket : config'.socket = config.socket) (hheld : config'.held ⊆ config.held)
    (hlog : ∀ address object, .receive address object ∈ config'.log →
      .receive address object ∈ config.log) : StreamContents out inn config' := by
  refine h.same (fun j => hsocket ▸ ⟨rfl, rfl, rfl⟩) (by rw [hsocket]) (fun j hj => ?_) hheld
    fun address object hevent => h.log address object (hlog address object hevent)
  unfold StreamConfiguration.Sending at hj ⊢
  rwa [hsocket] at hj

/-- A packet that nobody held is written to, and queued for sending or held. -/
theorem StreamContents.touch (h : StreamContents out inn config) (hheld : packet ∉ config.held)
    (hunsent : ¬ config.Sending packet)
    (hpacket : ∀ j, j ≠ packet → config'.socket.packet j = config.socket.packet j)
    (hsent : config'.socket.sent = config.socket.sent)
    (hsending : ∀ j, config'.Sending j → config.Sending j ∨ j = packet ∧
      Bears out (config'.socket.packet packet).addr (config'.socket.packet packet).datagram.bytes)
    (hreceived : ∀ j ∈ config'.held, j ∈ config.held ∨ j = packet ∧
      (config'.socket.packet packet).Keeps inn)
    (hlog : config'.log = config.log) : StreamContents out inn config' where
  sent := hsent ▸ h.sent
  sending := fun j hj => by
    rcases hsending j hj with hj | ⟨rfl, hbears⟩
    · have hne : j ≠ packet := by
        rintro rfl
        exact hunsent hj
      rw [hpacket j hne]
      exact h.sending j hj
    · exact hbears
  received := fun j hj => by
    rcases hreceived j hj with hj | ⟨rfl, hkeeps⟩
    · have hne : j ≠ packet := by
        rintro rfl
        exact hheld hj
      rw [hpacket j hne]
      exact h.received j hj
    · exact hkeeps
  log := hlog ▸ h.log

/-! ### Sending -/

theorem packetSent_counts {ref ref' : StreamReliability} {size : Nat}
    (h : streamReliabilityPacketSent ref size = some ref') : ref'.sequence ≠ ref.sequence := by
  rw [packetSent_sequence h]
  show (ref.sequence + 1) % 65535 ≠ ref.sequence
  omega

/-- A packet that is filled, addressed and sent is queued with its bytes. -/
theorem bears_sent {p : StreamPacket} {s s₁ s₂ : NetSocket} (hp : out p) (hfits : p.object.Fits)
    (hsized : s.Sized) (halloc : netPacketAlloc s = some (packet, s₁))
    (hpack : s₁.onBitstream packet (do
      streamProtocolPackHeader (.ofNat p.header.sequence) (.ofNat p.header.ack)
        (.ofBitVec p.header.ackBits)
      streamProtocolPackData p.object) = some ((), s₂)) :
    Bears out ((netSocketSend (s₂.setPacket packet (netPacketAddr (s₂.packet packet) p.address))
        packet).packet packet).addr
      ((netSocketSend (s₂.setPacket packet (netPacketAddr (s₂.packet packet) p.address))
        packet).packet packet).datagram.bytes := by
  obtain ⟨s', hpack', -, hwritten⟩ :=
    onBitstream_of_writes (writes_wire hfits) halloc hsized (length_wire hfits)
  obtain rfl : s' = s₂ := congrArg Prod.snd (Option.some.inj (hpack'.symm.trans hpack))
  have hprefix : p.wire <+: ((s.packet packet).written p.wire).data :=
    hasAt_written (hsized packet) (length_wire hfits)
  have hoffset : ((s.packet packet).written p.wire).offset = p.wire.length := Nat.zero_add _
  rw [packet_send_self, packet_setPacket_self]
  refine ⟨p, hp, rfl, ?_⟩
  show (s'.packet packet).bitstream.data.take (s'.packet packet).bitstream.offset = p.wire
  rw [hwritten, hoffset]
  exact (List.prefix_iff_eq_take.1 hprefix).symm

theorem StreamContents.streamSend (h : StreamContents out inn config)
    (hheld : StreamHeld config []) (hfits : object.Fits)
    (hsend : streamSend config i object = some config')
    (hlaw : (config'.memory i).reliability.sequence ≠ (config.memory i).reliability.sequence →
      out ((config.memory i).nextPacket object)) :
    StreamContents out inn config' := by
  cases streamSend_cases hsend with
  | skipped _ => exact h
  | @sent packet s₁ s₂ s₃ reliability hstate halloc hpack hsocket hsent =>
    have hp : out ((config.memory i).nextPacket object) := by
      refine hlaw ?_
      simpa [StreamConfiguration.setStream] using packetSent_counts hsent
    subst hsocket
    obtain ⟨hfresh, hqueue, hpending, -⟩ := hheld.owned.alloc halloc fun j => rfl
    have hbears := bears_sent hp hfits hheld.sized halloc hpack
    have hqueues := (touches_alloc halloc).queues ((touches_onBitstream hpack).queues
      ((touches_setPacket s₂ packet (netPacketAddr (s₂.packet packet)
        (config.memory i).address)).queues (queues_send _ packet)))
    have hfree : packet ∉ config.held := List.count_eq_zero.1 hfresh
    refine h.touch hfree ?_ ?_ hqueues.sent ?_
      (fun _ => .inl) rfl
    · rintro (hj | hj)
      · exact hqueue hj
      · exact hpending hj
    · exact fun j hj => packet_release.trans (hqueues.packet j hj)
    · rintro j (hj | hj)
      · rcases hqueues.queue with heq | heq
        · exact .inl (.inl (heq ▸ hj))
        · replace hj : j ∈ config.socket.socketDispatchQueue ++ [packet] := heq ▸ hj
          rcases List.mem_append.1 hj with hj | hj
          · exact .inl (.inl hj)
          · refine .inr ⟨List.mem_singleton.1 hj, ?_⟩
            show Bears out ((netPacketRelease _ packet).packet packet).addr
              ((netPacketRelease _ packet).packet packet).datagram.bytes
            rw [packet_release]
            exact hbears
      · exact .inl (.inr (hqueues.pending ▸ hj))

theorem StreamContents.sendStreams (hfits : object.Fits) {streams : List Nat} :
    ∀ {config : StreamConfiguration}, StreamContents out inn config → StreamHeld config [] →
      streams.Nodup → sendStreams object streams config = some config' →
      (∀ i ∈ streams, (config'.memory i).reliability.sequence ≠
        (config.memory i).reliability.sequence → out ((config.memory i).nextPacket object)) →
      StreamContents out inn config' := by
  induction streams with
  | nil =>
    intro config h _ _ hsend _
    cases hsend
    exact h
  | cons j streams ih =>
    intro config h hheld hnodup hsend hlaw
    obtain ⟨hj, hnodup⟩ := List.nodup_cons.1 hnodup
    obtain ⟨config₁, hfirst, hsend⟩ := Option.bind_eq_some_iff.1 hsend
    have hlast : config'.memory j = config₁.memory j := by
      rcases (sendStreams_eq hnodup hsend).2 j with heq | ⟨hmem, -⟩
      · exact heq
      · exact absurd hmem hj
    have hother : ∀ i ∈ streams, config₁.memory i = config.memory i := by
      intro i hi
      have hne : i ≠ j := fun heq => hj (heq ▸ hi)
      rcases (streamSend_eq hfirst).2 with heq | ⟨size, reliability, -, heq⟩
      · rw [heq]
      · rw [heq, Function.update_of_ne hne]
    refine ih (h.streamSend hheld hfits hfirst fun hsent => ?_) (hheld.streamSend hfirst) hnodup
      hsend fun i hi hsent => ?_
    · exact hlaw j List.mem_cons_self (by rwa [hlast])
    · rw [hother i hi] at hsent ⊢
      exact hlaw i (List.mem_cons_of_mem j hi) hsent

theorem Stream.update_reports {stream stream' : Stream} {due : Bool}
    (h : stream.update = some (due, stream')) :
    SameReports stream.reliability stream'.reliability := by
  obtain ⟨reliability, hreliability, h⟩ := Option.bind_eq_some_iff.1 h
  have hreports := streamReliabilityUpdate_reports hreliability
  dsimp only at h
  split at h <;> cases h <;> exact hreports

/-- An update does not change the next packet. -/
theorem Stream.update_nextPacket {stream stream' : Stream} {due : Bool}
    (h : stream.update = some (due, stream')) (object : StreamObject) :
    stream'.nextPacket object = stream.nextPacket object := by
  have hreports := Stream.update_reports h
  rw [Stream.nextPacket, Stream.nextPacket, update_address h, hreports.sequence, hreports.ack,
    hreports.ackBits]

/-- The packets that a tick sends: the sequences of their streams increase. -/
def tickPackets (config config' : StreamConfiguration) (object : StreamObject) :
    List StreamPacket :=
  (config.streams.filter fun i => (config'.memory i).reliability.sequence ≠
    (config.memory i).reliability.sequence).map fun i => (config.memory i).nextPacket object

theorem mem_tickPackets {p : StreamPacket} : p ∈ tickPackets config config' object ↔
    ∃ i ∈ config.streams, (config'.memory i).reliability.sequence ≠
      (config.memory i).reliability.sequence ∧ p = (config.memory i).nextPacket object := by
  simp only [tickPackets, List.mem_map, List.mem_filter, decide_eq_true_eq, ne_eq, and_assoc,
    eq_comm (a := p)]

theorem StreamContents.streamTimerCallback (h : StreamContents out inn config)
    (hheld : StreamHeld config []) (htable : StreamTable config) (hfits : object.Fits)
    (htimer : streamTimerCallback config object = some config')
    (hlaw : ∀ p ∈ tickPackets config config' object, out p) : StreamContents out inn config' := by
  have hupdated : ∀ {syncUpdate config₁}, updateStreams config.streams config =
      some (syncUpdate, config₁) → StreamContents out inn config₁ := by
    intro syncUpdate config₁ hupdate
    obtain ⟨hsocket, hheld₁⟩ := updateStreams_held hupdate
    obtain ⟨hlog, -⟩ := updateStreams_eq htable.nodup hupdate
    exact h.kept hsocket (hheld₁ ▸ List.Subset.refl _) fun address object hevent => hlog ▸ hevent
  cases streamTimerCallback_tick htimer with
  | idle _ => exact h
  | updated _ hupdate => exact hupdated hupdate
  | @sent config₁ _ _ hupdate hsend =>
    obtain ⟨hsocket, hheld₁⟩ := updateStreams_held hupdate
    obtain ⟨-, -, due, -, hupdates⟩ := updateStreams_eq htable.nodup hupdate
    have hlist := (updateStreams_same hupdate).streams
    have hnoted : StreamContents out inn (config₁.note .update) := by
      refine (hupdated hupdate).kept rfl (List.Subset.refl _) fun address object hevent => ?_
      simpa [StreamConfiguration.note] using hevent
    refine hnoted.sendStreams hfits (hheld.congr hsocket hheld₁) (hlist ▸ htable.nodup) hsend ?_
    intro i hi hsent
    rw [hlist] at hi
    have hreports := Stream.update_reports (hupdates i hi)
    refine hlaw _ (mem_tickPackets.2 ⟨i, hi, ?_, Stream.update_nextPacket (hupdates i hi) object⟩)
    rw [← hreports.sequence]
    exact hsent

/-! ### Receiving -/

theorem StreamContents.read (h : StreamContents out inn config) (hheld : StreamHeld config [])
    {datagram : Datagram} {socket : NetSocket} {p : StreamPacket} (hfits : p.object.Fits)
    (hread : netSocketReadEvent config.socket datagram = some (packet, socket))
    (hlaw : inn datagram.addr p) (hwire : datagram.bytes = p.wire) :
    StreamContents out inn
      { config.onSocket socket with received := config.received ++ [packet] } := by
  obtain ⟨s₁, halloc, rfl⟩ := netSocketReadEvent_eq hread
  obtain ⟨hfresh, hqueue, hpending, -⟩ := hheld.owned.alloc halloc fun j => rfl
  have htouches := (touches_alloc halloc).trans
    (touches_setPacket s₁ packet ((config.socket.packet packet).store datagram))
  have hfree : packet ∉ config.held := List.count_eq_zero.1 hfresh
  refine h.touch hfree ?_ htouches.packet htouches.sent
    ?_ ?_ rfl
  · rintro (hj | hj)
    · exact hqueue hj
    · exact hpending hj
  · rintro j (hj | hj)
    · exact .inl (.inl (htouches.queue ▸ hj))
    · exact .inl (.inr (htouches.pending ▸ hj))
  · intro j hj
    have hcases : j ∈ config.held ∨ j = packet := by
      simp only [StreamConfiguration.held, List.mem_append, List.mem_singleton] at hj ⊢
      tauto
    refine hcases.imp_right fun heq => ⟨heq, p, ?_⟩
    show inn ((s₁.setPacket packet _).packet packet).addr p ∧
      HasAt ((s₁.setPacket packet _).packet packet).bitstream.data 0 p.wire
    rw [packet_setPacket_self]
    refine ⟨hlaw, ?_⟩
    show HasAt (overwrite (config.socket.packet packet).bitstream.data 0 datagram.bytes) 0 p.wire
    have hroom := length_wire hfits
    rw [hwire]
    refine hasAt_overwrite ?_
    rw [hheld.sized packet]
    omega

/-- A read event that hands its packet to nobody. -/
theorem StreamContents.unread (h : StreamContents out inn config) (hheld : StreamHeld config [])
    {socket : NetSocket} (hunread : Unread config.socket socket) :
    StreamContents out inn (config.onSocket socket) where
  sent := fun e he => h.sent e (hunread.sent ▸ he)
  sending := fun j hj => by
    have hsending : config.Sending j := by
      rcases hj with hj | hj
      · exact .inl (hunread.queue ▸ hj)
      · exact .inr (hunread.pending ▸ hj)
    show Bears out (socket.packet j).addr (socket.packet j).datagram.bytes
    rw [hunread.packet _ hheld.owned j (.inr (hsending.imp_right .inl))]
    exact h.sending j hsending
  received := fun j hj => by
    show (socket.packet j).Keeps inn
    rw [hunread.packet _ hheld.owned j (.inl (List.count_pos_iff.2 hj))]
    exact h.received j hj
  log := h.log

theorem NetPacket.Alike.trans {p₁ p₂ p₃ : NetPacket} (h : p₁.Alike p₂) (h' : p₂.Alike p₃) :
    p₁.Alike p₃ :=
  ⟨h.addr.trans h'.addr, h.length.trans h'.length, h.data.trans h'.data⟩

theorem alike_onBitstream {α : Type} {op : BitM α} {a : α} {s s' : NetSocket}
    (hop : s.onBitstream packet op = some (a, s'))
    (hdata : (s'.packet packet).bitstream.data = (s.packet packet).bitstream.data) (j : Nat) :
    (s'.packet j).Alike (s.packet j) := by
  by_cases hj : j = packet
  · obtain ⟨bitstream, -, rfl⟩ := onBitstream_eq hop
    subst hj
    refine ⟨?_, ?_, hdata⟩ <;> rw [packet_setPacket_self]
  · rw [(touches_onBitstream hop).packet j hj]
    exact ⟨rfl, rfl, rfl⟩

/-- What the two decoders make of a packet that keeps a stream packet. -/
theorem unpack_wire {s s₁ : NetSocket} {p : StreamPacket} (hsized : s.Sized)
    (hunread : (s.packet packet).Unread) (hfits : p.object.Fits)
    (hwire : HasAt (s.packet packet).bitstream.data 0 p.wire) {result : UnpackResult}
    {sequence ack ackBitField : UInt32}
    (hheader : s.onBitstream packet (streamProtocolUnpackHeader 0 0 0) =
      some ((result, sequence, ack, ackBitField), s₁)) :
    (result = .valid ∧ sequence = .ofNat p.header.sequence ∧ ack = .ofNat p.header.ack ∧
      ackBitField = .ofBitVec p.header.ackBits) ∧
    (∀ j, (s₁.packet j).Alike (s.packet j)) ∧
    ∀ {dest received : StreamObject} {result : UnpackResult} {s₂ : NetSocket},
      s₁.onBitstream packet (streamProtocolUnpackData dest) = some ((result, received), s₂) →
      received.Same p.object ∧ ∀ j, (s₂.packet j).Alike (s₁.packet j) := by
  have hbound : (s.packet packet).bitstream.bound = kNetPacketMaxLen := by
    rw [hunread]
    rfl
  have hoffset : (s.packet packet).bitstream.offset = 0 := by
    rw [hunread]
    rfl
  obtain ⟨hat, hat'⟩ := hasAt_append.1 hwire
  obtain ⟨s', hop, hsized', hpacket⟩ := onBitstream_of_reads
    (reads_streamHeader 0 0 0 (.ofNat p.header.sequence) (.ofNat p.header.ack)
      (.ofBitVec p.header.ackBits)) hsized hbound (by rw [hoffset]; exact Nat.zero_le _)
    (by rw [hoffset]; exact hat)
  obtain ⟨hvalues, rfl⟩ := Prod.mk.inj (Option.some.inj (hheader.symm.trans hop))
  simp only [Prod.mk.injEq] at hvalues
  refine ⟨hvalues, alike_onBitstream hheader (by rw [hpacket]; rfl),
    fun {dest received result s₂} hdata => ?_⟩
  obtain ⟨s'', hop', -, hpacket'⟩ := onBitstream_of_reads (hfits.holds.reads_data dest) hsized'
    (by rw [hpacket]; exact hbound)
    (by rw [hpacket, Bitstream.advance, hoffset]; exact (by decide : 0 + 15 ≤ 256))
    (by rw [hpacket, Bitstream.advance, hoffset]; exact hat')
  obtain ⟨hvalues', rfl⟩ := Prod.mk.inj (Option.some.inj (hdata.symm.trans hop'))
  obtain ⟨-, rfl⟩ := Prod.mk.inj hvalues'
  refine ⟨⟨rfl, rfl, ?_⟩, alike_onBitstream hdata (by rw [hpacket']; rfl)⟩
  show (patch dest.data p.object.bytes).toList.take p.object.length.toNat = p.object.bytes
  rw [toList_patch _ _ (hfits.length_bytes.trans_le hfits), ← hfits.length_bytes, List.take_left]

/-- A search that succeeds has found the address. -/
theorem find_address {address : NetAddr} (h : config.find address = some i) :
    (config.memory i).address = address := by
  have hfound := List.find?_some (p := fun i => netAddrIsEqual (config.memory i).address address) h
  exact netAddrIsEqual_iff.1 hfound

/-- Packets are at most read, and one of them is given back. -/
theorem StreamContents.released (h : StreamContents out inn config) {socket : NetSocket}
    (hsocket : config'.socket = netPacketRelease socket packet)
    (halike : ∀ j, (socket.packet j).Alike (config.socket.packet j))
    (hsent : socket.sent = config.socket.sent)
    (hqueue : socket.socketDispatchQueue = config.socket.socketDispatchQueue)
    (hpending : socket.pendingPackets = config.socket.pendingPackets)
    (hheld : config'.held = config.held)
    (hlog : ∀ address object, .receive address object ∈ config'.log →
      ∃ p, inn address p ∧ object.Same p.object) : StreamContents out inn config' := by
  refine h.same (fun j => ?_) (by rw [hsocket]; exact hsent) (fun j hj => ?_)
    (hheld ▸ List.Subset.refl _) hlog
  · rw [hsocket, packet_release]
    exact halike j
  · unfold StreamConfiguration.Sending at hj ⊢
    rw [hsocket] at hj
    rwa [← hqueue, ← hpending]

theorem StreamContents.streamReceiveBlock {stack : StreamObject}
    (h : StreamContents out inn config) (hsized : config.socket.Sized)
    (hfits : ∀ address p, inn address p → p.object.Fits)
    (hunread : (config.socket.packet packet).Unread)
    (hkeeps : (config.socket.packet packet).Keeps inn)
    (hblock : streamReceiveBlock config packet stack = some config') :
    StreamContents out inn config' := by
  obtain ⟨p, hp, hwire⟩ := hkeeps
  cases streamReceiveBlock_receive hblock with
  | invalid hheader hinvalid =>
    obtain ⟨⟨hvalid, -⟩, -, -⟩ := unpack_wire hsized hunread (hfits _ p hp) hwire hheader
    exact absurd hvalid hinvalid
  | @unknown _ _ _ socket hheader _ =>
    obtain ⟨-, halike, -⟩ := unpack_wire hsized hunread (hfits _ p hp) hwire hheader
    have htouches := touches_onBitstream hheader
    exact h.released rfl halike htouches.sent htouches.queue htouches.pending
      (@streamsHeld_dispatch (config.onSocket socket) (.add (socket.packet packet).addr) rfl) h.log
  | @known i _ _ _ socket socket' _ received stream accepted hheader hfind hdata hreceive _ hset =>
    subst hset
    obtain ⟨-, halike, hobject⟩ := unpack_wire hsized hunread (hfits _ p hp) hwire hheader
    obtain ⟨hsame, halike'⟩ := hobject hdata
    have htouches := (touches_onBitstream hheader).trans (touches_onBitstream hdata)
    have haddress : stream.address = (config.socket.packet packet).addr := by
      rw [(streamReceive_eq hreceive).1, ← (halike packet).addr]
      exact find_address hfind
    split
    · refine h.released rfl (fun j => (halike' j).trans (halike j)) htouches.sent htouches.queue
        htouches.pending rfl fun address object hevent => ?_
      rcases List.mem_append.1 hevent with hevent | hevent
      · exact h.log address object hevent
      · cases List.mem_singleton.1 hevent
        exact ⟨p, haddress ▸ hp, hsame⟩
    · exact h.released rfl (fun j => (halike' j).trans (halike j)) htouches.sent htouches.queue
        htouches.pending rfl h.log

theorem StreamContents.write (h : StreamContents out inn config) :
    StreamContents out inn (config.onSocket (netSocketWriteEvent config.socket)) := by
  by_cases hsending : config.socket.isSending = true
  · obtain ⟨hqueue, hpending, -, hsent⟩ := netSocketFlush_queues config.socket.pendingPackets
      { config.socket with pendingPackets := [] }
    have hwrite : netSocketWriteEvent config.socket = { netSocketFlush { config.socket with
        pendingPackets := [] } config.socket.pendingPackets with isSending := false } := by
      rw [netSocketWriteEvent, if_pos hsending]
    have hpacket : ∀ j, (config.onSocket (netSocketWriteEvent config.socket)).socket.packet j =
        config.socket.packet j := fun j => packet_writeEvent
    refine ⟨fun e he => ?_, fun j hj => ?_, fun j hj => ?_, h.log⟩
    · replace he : e ∈ (netSocketWriteEvent config.socket).sent := he
      rw [hwrite] at he
      replace he : e ∈ (netSocketFlush _ _).sent := he
      rw [hsent] at he
      rcases List.mem_append.1 he with he | he
      · exact h.sent e he
      · obtain ⟨j, hj, rfl⟩ := List.mem_map.1 he
        exact h.sending j (.inr hj)
    · rw [hpacket]
      refine h.sending j ?_
      rcases hj with hj | hj
      · replace hj : j ∈ (netSocketWriteEvent config.socket).socketDispatchQueue := hj
        rw [hwrite] at hj
        exact .inl (hqueue ▸ hj)
      · replace hj : j ∈ (netSocketWriteEvent config.socket).pendingPackets := hj
        rw [hwrite] at hj
        replace hj : j ∈ (netSocketFlush _ _).pendingPackets := hj
        rw [hpending] at hj
        cases hj
    · rw [hpacket]
      exact h.received j hj
  · rw [netSocketWriteEvent, if_neg hsending]
    exact h

theorem StreamContents.socketBlock (h : StreamContents out inn config) :
    StreamContents out inn (config.onSocket (netSocketRunBlock config.socket)) := by
  have hpacket : ∀ j, (netSocketRunBlock config.socket).packet j = config.socket.packet j :=
    fun j => packet_runBlock
  refine h.same (fun j => ?_) sent_runBlock (fun j hj => ?_) (List.Subset.refl _) h.log
  · show ((netSocketRunBlock config.socket).packet j).Alike _
    rw [hpacket]
    exact ⟨rfl, rfl, rfl⟩
  · by_contra hunsent
    obtain ⟨hqueue, hpending⟩ := not_or.1 hunsent
    obtain ⟨hqueue', hpending'⟩ := netSocketRunBlock_queues ⟨hqueue, hpending⟩
    rcases hj with hj | hj
    · exact hqueue' hj
    · exact hpending' hj

/-! ### Steps -/

section Log

variable {address : NetAddr}

theorem received_suspend (h : .receive address object ∈ config.suspended.log) :
    .receive address object ∈ config.log := by
  unfold StreamConfiguration.suspended at h
  split at h
  · simpa [StreamConfiguration.note] using h
  · exact h

theorem received_resume (h : .receive address object ∈ (streamResume config).log) :
    .receive address object ∈ config.log := by
  unfold streamResume at h
  split at h <;> exact h

theorem received_add {address' : NetAddr}
    (h : .receive address object ∈ (streamAddBlock config address').log) :
    .receive address object ∈ config.log := by
  unfold streamAddBlock at h
  split at h
  · exact h
  · have hadded := received_resume h
    exact hadded

theorem received_remove {address' : NetAddr}
    (h : .receive address object ∈ (config.removed address').log) :
    .receive address object ∈ config.log := by
  unfold StreamConfiguration.removed at h
  split at h
  · exact h
  · dsimp only at h
    split at h
    · have hremoved := received_suspend h
      exact hremoved
    · exact h

end Log

/-- What a step reads from the network obeys the law. -/
def Authentic (inn : NetAddr → StreamPacket → Prop) : StreamAction → Prop
  | .read (.datagram datagram) => ∃ p, inn datagram.addr p ∧ datagram.bytes = p.wire
  | _ => True

/-- The packets that a step sends. -/
def sentPackets (config config' : StreamConfiguration) : StreamAction → List StreamPacket
  | .tick object => tickPackets config config' object
  | _ => []

/-- The object of a tick fits. -/
def StreamAction.Fits : StreamAction → Prop
  | .tick object => object.Fits
  | _ => True

instance : DecidablePred StreamAction.Fits
  | .tick object => inferInstanceAs (Decidable object.Fits)
  | .add _ | .remove _ | .suspend | .resume | .block _ | .read _ | .callback _ | .socketBlock
  | .write => .isTrue trivial

/-- **One step** keeps what the packets hold. -/
theorem streamStep_contents {action : StreamAction} (h : StreamContents out inn config)
    (hheld : StreamHeld config []) (htable : StreamTable config)
    (hinn : ∀ address p, inn address p → p.object.Fits) (hfits : action.Fits)
    (hread : Authentic inn action) (hstep : streamStep config action = some config')
    (hsent : ∀ p ∈ sentPackets config config' action, out p) :
    StreamContents out inn config' := by
  cases action with
  | tick updateObject => exact h.streamTimerCallback hheld htable hfits hstep hsent
  | add address | remove address =>
    cases hstep
    exact h.kept rfl (List.Perm.of_eq (streamsHeld_dispatch rfl)).subset fun _ _ hevent => hevent
  | suspend =>
    obtain ⟨-, rfl⟩ := streamSuspend_iff.1 hstep
    exact h.kept streamsHeld_suspend.1 (List.Perm.of_eq streamsHeld_suspend.2).subset
      fun _ _ => received_suspend
  | resume =>
    cases hstep
    exact h.kept streamsHeld_resume.1 (List.Perm.of_eq streamsHeld_resume.2).subset
      fun _ _ => received_resume
  | block stack =>
    simp only [streamStep] at hstep
    split at hstep
    · cases hstep
      exact h
    · rename_i block rest hqueue
      cases block with
      | add address =>
        cases hstep
        obtain ⟨hsocket, hheld'⟩ :=
          @streamsHeld_add { config with streamDispatchQueue := rest } address
        exact h.kept hsocket (List.Perm.of_eq (hheld'.trans (streamsHeld_popped hqueue rfl))).subset
          fun _ _ hevent => @received_add { config with streamDispatchQueue := rest } _ _ _ hevent
      | remove address =>
        obtain ⟨-, rfl⟩ := streamRemoveBlock_iff.1 hstep
        obtain ⟨hsocket, hheld'⟩ :=
          @streamsHeld_remove { config with streamDispatchQueue := rest } address
        exact h.kept hsocket (List.Perm.of_eq (hheld'.trans (streamsHeld_popped hqueue rfl))).subset
          fun _ _ hevent => @received_remove { config with streamDispatchQueue := rest } _ _ _ hevent
      | timeout i =>
        cases hstep
        refine h.kept rfl (List.Perm.of_eq (streamsHeld_popped hqueue rfl)).subset
          fun address object hevent => ?_
        simpa [streamTimeoutBlock, StreamConfiguration.note, StreamConfiguration.setStream]
          using hevent
      | receive packet =>
        have hmem : packet ∈ config.held :=
          (streamsHeld_receive hqueue).symm.subset List.mem_cons_self
        have hpopped : StreamContents out inn { config with streamDispatchQueue := rest } :=
          h.kept rfl (fun j hj => (streamsHeld_receive hqueue).symm.subset (.tail _ hj))
            fun _ _ hevent => hevent
        exact hpopped.streamReceiveBlock hheld.sized hinn (hheld.unread packet hmem)
          (h.received packet hmem) hstep
  | read recvfrom =>
    simp only [streamStep] at hstep
    cases hreceive : netSocketRead config.socket true recvfrom with
    | mk o socket =>
      rw [hreceive] at hstep
      rcases netSocketRead_cases hreceive with
        ⟨datagram, packet, rfl, -, -, -, rfl, hevent⟩ | ⟨rfl, hunread⟩
      · cases hstep
        obtain ⟨p, hp, hwire⟩ := hread
        exact h.read hheld (hinn _ p hp) hevent hp hwire
      · cases hstep
        exact h.unread hheld hunread
  | callback i =>
    simp only [streamStep] at hstep
    split at hstep <;> cases hstep
    · exact h
    · rename_i packet hget
      exact h.kept rfl (streamsHeld_callback hget).subset fun _ _ hevent => hevent
  | socketBlock =>
    cases hstep
    exact h.socketBlock
  | write =>
    cases hstep
    exact h.write

end Rules

end UniversalNetwork
