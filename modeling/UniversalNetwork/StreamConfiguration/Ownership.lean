import UniversalNetwork.NetSocket.Payload
import UniversalNetwork.StreamConfiguration.Delivered
import UniversalNetwork.StreamConfiguration.Moves
import Mathlib.Data.List.Perm.Basic

/-!
# Who holds the packets of the streams

Outside the socket a packet is held by the list of packets read, until its callback has run, and then
by its block in the queue; a packet that is sent is given back at once, and the socket keeps it until
it is written. `config.Owns others`: these, and whoever else holds packets of the socket (`others`),
account for the references of the pool; a step leaves the others alone (`streamStep_owns`).
`StreamHeld config extra` is that for a socket of its own, with the code that is running (`extra`),
and a packet that is held is as it was received.
-/

namespace UniversalNetwork

open Lib

/-! ## Operations keep the size of the block -/

def KeepsSize {α : Type} (op : BitM α) : Prop :=
  ∀ (stream stream' : Bitstream) (a : α), op stream = some (a, stream') →
    stream'.data.length = stream.data.length

section KeepsSize

variable {α β : Type}

theorem keepsSize_pure (a : α) : KeepsSize (pure a : BitM α) := by
  intro stream stream' a' h
  cases h
  rfl

theorem KeepsSize.bind {op : BitM α} {f : α → BitM β} (hop : KeepsSize op)
    (hf : ∀ a, KeepsSize (f a)) : KeepsSize (op >>= f) := by
  intro stream stream' b h
  obtain ⟨a, stream₁, h₁, h₂⟩ := bind_eq_some h
  exact (hf a _ _ _ h₂).trans (hop _ _ _ h₁)

theorem keepsSize_ite {p : Prop} [Decidable p] {op op' : BitM α} (hop : KeepsSize op)
    (hop' : KeepsSize op') : KeepsSize (if p then op else op') := by
  split
  · exact hop
  · exact hop'

theorem keepsSize_put (byte : UInt8) : KeepsSize (bitstreamPut byte) := by
  intro stream stream' a h
  unfold bitstreamPut at h
  split at h
  · cases h
    exact List.length_set
  · cases h

theorem keepsSize_forM (bytes : List UInt8) : KeepsSize (bytes.forM bitstreamPut) := by
  induction bytes with
  | nil => exact keepsSize_pure ()
  | cons byte bytes ih => exact (keepsSize_put byte).bind fun _ => ih

theorem keepsSize_putAll (bytes : List UInt8) : KeepsSize (bitstreamPutAll bytes) := by
  have hget : KeepsSize (get : BitM Bitstream) := by
    intro stream stream' a h
    cases h
    rfl
  unfold bitstreamPutAll
  exact hget.bind fun _ => keepsSize_ite (keepsSize_forM bytes) (keepsSize_pure ())

theorem writeBytesLoop_length {src data data' : List UInt8} {offset length n : Nat}
    (h : writeBytesLoop src data offset length n = some data') : data'.length = data.length := by
  induction n generalizing data' with
  | zero =>
    cases h
    rfl
  | succ b ih =>
    obtain ⟨data₁, h₁, h⟩ := Option.bind_eq_some_iff.1 h
    obtain ⟨byte, -, h⟩ := Option.bind_eq_some_iff.1 h
    split at h
    · cases h
      exact List.length_set.trans (ih h₁)
    · cases h

theorem keepsSize_writeBytes (src : List UInt8) (length : Nat) :
    KeepsSize (bitstreamWriteBytes src length) := by
  intro stream stream' a h
  unfold bitstreamWriteBytes at h
  split at h
  · obtain ⟨data, hdata, h⟩ := Option.bind_eq_some_iff.1 h
    cases h
    exact writeBytesLoop_length hdata
  · cases h
    rfl

theorem keepsSize_pack (sequence ack ackBitField : UInt32) (object : StreamObject) :
    KeepsSize (do
      streamProtocolPackHeader sequence ack ackBitField
      streamProtocolPackData object) := by
  have hheader : KeepsSize (streamProtocolPackHeader sequence ack ackBitField) :=
    ((keepsSize_putAll _).bind fun _ => (keepsSize_putAll _).bind fun _ => keepsSize_putAll _).bind
      fun _ => (keepsSize_putAll _).bind fun _ => (keepsSize_putAll _).bind fun _ =>
        keepsSize_putAll _
  have hdata : KeepsSize (streamProtocolPackData object) :=
    (keepsSize_putAll _).bind fun _ => (keepsSize_putAll _).bind fun _ =>
      (keepsSize_writeBytes _ _).bind fun _ => keepsSize_pure ()
  exact hheader.bind fun _ => hdata

theorem keepsSize_take : KeepsSize bitstreamTake := by
  intro stream stream' a h
  obtain ⟨byte, -, heq⟩ := Option.map_eq_some_iff.1 h
  cases heq
  rfl

theorem keepsSize_uint8 : KeepsSize bitstreamReadUint8 :=
  keepsSize_take.bind fun _ => keepsSize_pure _

theorem keepsSize_uint16 : KeepsSize bitstreamReadUint16 :=
  keepsSize_take.bind fun _ => keepsSize_take.bind fun _ => keepsSize_pure _

theorem keepsSize_uint32 : KeepsSize bitstreamReadUint32 :=
  keepsSize_take.bind fun _ => keepsSize_take.bind fun _ => keepsSize_take.bind fun _ =>
    keepsSize_take.bind fun _ => keepsSize_pure _

theorem keepsSize_uint64 : KeepsSize bitstreamReadUint64 :=
  keepsSize_take.bind fun _ => keepsSize_take.bind fun _ => keepsSize_take.bind fun _ =>
    keepsSize_take.bind fun _ => keepsSize_take.bind fun _ => keepsSize_take.bind fun _ =>
      keepsSize_take.bind fun _ => keepsSize_take.bind fun _ => keepsSize_pure _

theorem keepsSize_readBytes {m : Nat} (dest : Vector UInt8 m) (length : Nat) :
    KeepsSize (bitstreamReadBytes dest length) := by
  intro stream stream' a h
  unfold bitstreamReadBytes at h
  split at h
  · obtain ⟨dest', -, h⟩ := Option.bind_eq_some_iff.1 h
    cases h
    rfl
  · cases h
    rfl

theorem keepsSize_unpackHeader (sequence ack ackBitField : UInt32) :
    KeepsSize (streamProtocolUnpackHeader sequence ack ackBitField) := by
  have hprotocol : KeepsSize (protocolUnpackHeader kProtocolDefaultId kProtocolDefaultVersion
      .stream) :=
    keepsSize_uint8.bind fun _ => keepsSize_ite (keepsSize_pure _) (keepsSize_uint8.bind fun _ =>
      keepsSize_ite (keepsSize_pure _) (keepsSize_uint8.bind fun _ =>
        keepsSize_ite (keepsSize_pure _) (keepsSize_pure _)))
  exact hprotocol.bind fun _ => keepsSize_ite (keepsSize_pure _) (keepsSize_uint32.bind fun _ =>
    keepsSize_uint32.bind fun _ => keepsSize_uint32.bind fun _ => keepsSize_pure _)

theorem keepsSize_unpackData (object : StreamObject) :
    KeepsSize (streamProtocolUnpackData object) :=
  keepsSize_uint64.bind fun _ => keepsSize_uint16.bind fun _ =>
    (keepsSize_readBytes _ _).bind fun _ => keepsSize_pure _

theorem NetSocket.Sized.onBitstream {s s' : NetSocket} {i : Nat} {op : BitM α} {a : α}
    (h : s.Sized) (hop : s.onBitstream i op = some (a, s')) (hkeeps : KeepsSize op) : s'.Sized := by
  obtain ⟨bitstream, hbitstream, rfl⟩ := onBitstream_eq hop
  exact h.setPacket ((hkeeps _ _ _ hbitstream).trans (h i))

end KeepsSize

/-! ## Holders -/

/-- The packet a block was queued for. -/
def StreamBlock.packet : StreamBlock → Option Nat
  | .receive packet => some packet
  | _ => none

/-- The packets whose callback or block has not run. -/
def StreamConfiguration.held (config : StreamConfiguration) : List Nat :=
  config.received ++ config.streamDispatchQueue.filterMap StreamBlock.packet

/-- The packet as the read event left it. -/
def NetPacket.Unread (p : NetPacket) : Prop :=
  p.bitstream = bitstreamCreate p.bitstream.data kNetPacketMaxLen

/-- The references of the streams and of the others are those the pool counts. -/
def StreamConfiguration.Owns (config : StreamConfiguration) (others : Nat → Nat) : Prop :=
  config.socket.Owned fun i => others i + config.held.count i

structure StreamHeld (config : StreamConfiguration) (extra : List Nat) : Prop where
  owned : config.socket.Owned fun i => (extra ++ config.held).count i
  nodup : (extra ++ config.held).Nodup
  sized : config.socket.Sized
  unread : ∀ i ∈ config.held, (config.socket.packet i).Unread

theorem streamHeld_setup (packets : Nat → Vector UInt8 kNetPacketMaxLen)
    (suspendCallback : Bool) :
    StreamHeld (streamSetup packets suspendCallback) [] where
  owned := netSocketCreate_owned packets
  nodup := .nil
  sized := netSocketCreate_sized packets
  unread := nofun

theorem streamsHeld_dispatch {config : StreamConfiguration} {block : StreamBlock}
    (hblock : block.packet = none) : (config.dispatch block).held = config.held := by
  simp [StreamConfiguration.held, StreamConfiguration.dispatch, hblock]

theorem streamsHeld_popped {config : StreamConfiguration} {block : StreamBlock}
    {rest : List StreamBlock} (hqueue : config.streamDispatchQueue = block :: rest)
    (hblock : block.packet = none) :
    { config with streamDispatchQueue := rest }.held = config.held := by
  unfold StreamConfiguration.held
  rw [hqueue, List.filterMap_cons_none hblock]

/-! ### References -/

section Owns

variable {config config' : StreamConfiguration} {others others' : Nat → Nat} {i packet : Nat}

/-- References change hands that the pool does not know of. -/
theorem StreamConfiguration.Owns.perm (h : config.Owns others)
    (hsocket : config'.socket = config.socket)
    (hheld : ∀ j, others' j + config'.held.count j = others j + config.held.count j) :
    config'.Owns others' := by
  unfold StreamConfiguration.Owns
  rw [hsocket]
  exact NetSocket.Owned.congr h hheld

theorem StreamConfiguration.Owns.congr (h : config.Owns others)
    (hsocket : config'.socket = config.socket) (hheld : config'.held = config.held) :
    config'.Owns others :=
  h.perm hsocket fun j => by rw [hheld]

theorem StreamConfiguration.Owns.streamSend {object : StreamObject} (h : config.Owns others)
    (hsend : streamSend config i object = some config') : config'.Owns others := by
  cases streamSend_cases hsend with
  | skipped _ => exact h
  | @sent packet s₁ s₂ _ _ _ halloc hpack hsocket _ =>
    subst hsocket
    obtain ⟨-, -, -, howned⟩ := NetSocket.Owned.alloc h halloc fun j => rfl
    have hsent := ((howned.onBitstream hpack).setPacket packet
      (netPacketAddr (s₂.packet packet) (config.memory i).address)).send (i := packet)
        (by rw [if_pos rfl]; omega)
    exact hsent.release fun j => rfl

theorem StreamConfiguration.Owns.sendStreams {object : StreamObject} {streams : List Nat}
    (h : config.Owns others) (hsend : sendStreams object streams config = some config') :
    config'.Owns others :=
  sendStreams_inv (P := fun c => c.Owns others) (fun h hfirst => h.streamSend hfirst) h hsend

/-- Updating a stream has nothing to do with packets. -/
theorem streamUpdate_held {shouldUpdate : Bool}
    (hupdate : streamUpdate config i = some (shouldUpdate, config')) :
    config'.socket = config.socket ∧ config'.held = config.held := by
  obtain ⟨⟨due, stream⟩, -, hupdate⟩ := Option.bind_eq_some_iff.1 hupdate
  dsimp only at hupdate
  split at hupdate <;> cases hupdate
  · exact ⟨rfl, streamsHeld_dispatch rfl⟩
  · exact ⟨rfl, rfl⟩

theorem updateStreams_held {streams : List Nat} :
    ∀ {config : StreamConfiguration} {syncUpdate : Bool},
      updateStreams streams config = some (syncUpdate, config') →
      config'.socket = config.socket ∧ config'.held = config.held := by
  induction streams with
  | nil =>
    intro config syncUpdate hupdate
    cases hupdate
    exact ⟨rfl, rfl⟩
  | cons i streams ih =>
    intro config syncUpdate hupdate
    obtain ⟨⟨shouldUpdate, config₁⟩, hfirst, hupdate⟩ := Option.bind_eq_some_iff.1 hupdate
    obtain ⟨⟨syncUpdate', config₂⟩, hrest, hupdate⟩ := Option.bind_eq_some_iff.1 hupdate
    cases hupdate
    obtain ⟨hsocket, hheld⟩ := streamUpdate_held hfirst
    obtain ⟨hsocket', hheld'⟩ := ih hrest
    exact ⟨hsocket'.trans hsocket, hheld'.trans hheld⟩

theorem StreamConfiguration.Owns.streamTimerCallback {object : StreamObject} (h : config.Owns others)
    (htimer : streamTimerCallback config object = some config') : config'.Owns others := by
  cases streamTimerCallback_tick htimer with
  | idle _ => exact h
  | updated _ hupdate =>
    obtain ⟨hsocket, hheld⟩ := updateStreams_held hupdate
    exact h.congr hsocket hheld
  | @sent config₁ _ _ hupdate hsend =>
    obtain ⟨hsocket, hheld⟩ := updateStreams_held hupdate
    have hnoted : (config₁.note .update).Owns others := h.congr hsocket hheld
    exact hnoted.sendStreams hsend

/-- The code that runs has read the packet, and gives it back. -/
theorem StreamConfiguration.Owns.released
    (h : config.Owns fun j => others j + if j = packet then 1 else 0)
    (hsocket : config'.socket = netPacketRelease config.socket packet)
    (hheld : config'.held = config.held) : config'.Owns others := by
  unfold StreamConfiguration.Owns
  rw [hsocket, hheld]
  refine NetSocket.Owned.release h fun j => ?_
  dsimp only
  omega

theorem StreamConfiguration.Owns.onPacket (h : config.Owns others) {α : Type} {op : BitM α} {a : α}
    {socket : NetSocket} (hop : config.socket.onBitstream packet op = some (a, socket)) :
    (config.onSocket socket).Owns others :=
  NetSocket.Owned.onBitstream h hop

theorem StreamConfiguration.Owns.streamReceiveBlock {stack : StreamObject}
    (h : config.Owns fun j => others j + if j = packet then 1 else 0)
    (hblock : streamReceiveBlock config packet stack = some config') : config'.Owns others := by
  cases streamReceiveBlock_receive hblock with
  | invalid hheader _ => exact (h.onPacket hheader).released rfl rfl
  | @unknown _ _ _ socket hheader _ =>
    exact (h.onPacket hheader).released rfl
      (@streamsHeld_dispatch (config.onSocket socket) (.add (socket.packet packet).addr) rfl)
  | known hheader _ hdata _ _ hset =>
    subst hset
    have hread := (h.onPacket hheader).onPacket hdata
    split <;> exact hread.released rfl rfl

theorem StreamConfiguration.Owns.read (h : config.Owns others) {datagram : Datagram}
    {socket : NetSocket}
    (hread : netSocketReadEvent config.socket datagram = some (packet, socket)) :
    { config.onSocket socket with received := config.received ++ [packet] }.Owns others := by
  obtain ⟨s₁, halloc, rfl⟩ := netSocketReadEvent_eq hread
  obtain ⟨-, -, -, howned⟩ := NetSocket.Owned.alloc h halloc fun j => rfl
  refine (howned.setPacket packet _).congr fun j => ?_
  simp only [StreamConfiguration.held, StreamConfiguration.onSocket, List.count_append, count_cons,
    List.count_nil]
  omega

end Owns

/-! ### Packets as they were received -/

section Rules

variable {config config' : StreamConfiguration} {extra extra' : List Nat} {i packet : Nat}

theorem StreamHeld.owns (h : StreamHeld config extra) : config.Owns fun i => extra.count i :=
  h.owned.congr fun _ => List.count_append.symm

theorem StreamConfiguration.Owns.owned (h : config.Owns fun i => extra.count i) :
    config.socket.Owned fun i => (extra ++ config.held).count i :=
  NetSocket.Owned.congr h fun _ => List.count_append

/-- The packets change hands. -/
theorem StreamHeld.perm (h : StreamHeld config extra) (hsocket : config'.socket = config.socket)
    (hheld : (extra' ++ config'.held).Perm (extra ++ config.held))
    (hsubset : config'.held ⊆ config.held) : StreamHeld config' extra' where
  owned := by
    rw [hsocket]
    exact h.owned.congr fun j => hheld.count_eq j
  nodup := hheld.nodup_iff.2 h.nodup
  sized := hsocket ▸ h.sized
  unread := fun j hj => hsocket ▸ h.unread j (hsubset hj)

theorem StreamHeld.congr (h : StreamHeld config extra) (hsocket : config'.socket = config.socket)
    (hheld : config'.held = config.held) : StreamHeld config' extra :=
  h.perm hsocket (hheld ▸ .refl _) (hheld ▸ List.Subset.refl _)

/-- The socket works on packets that nobody outside holds. -/
theorem StreamHeld.onSocket (h : StreamHeld config extra) {socket : NetSocket}
    (hsocket : config'.socket = socket) (hheld : config'.held = config.held)
    (howned : socket.Owned fun i => (extra ++ config.held).count i) (hsized : socket.Sized)
    (hpacket : ∀ j ∈ config.held, socket.packet j = config.socket.packet j) :
    StreamHeld config' extra where
  owned := by
    rw [hsocket, hheld]
    exact howned
  nodup := hheld ▸ h.nodup
  sized := hsocket ▸ hsized
  unread := fun j hj => by
    rw [hheld] at hj
    rw [hsocket, hpacket j hj]
    exact h.unread j hj

theorem StreamHeld.streamSend (h : StreamHeld config extra) {object : StreamObject}
    (hsend : streamSend config i object = some config') : StreamHeld config' extra := by
  have howned := (h.owns.streamSend hsend).owned
  unfold UniversalNetwork.streamSend at hsend
  dsimp only at hsend
  split at hsend
  · split at hsend
    · cases hsend
      exact h
    · rename_i packet s₁ halloc
      obtain ⟨⟨_, s₂⟩, hpack, hsend⟩ := Option.bind_eq_some_iff.1 hsend
      obtain ⟨reliability, -, hsend⟩ := Option.bind_eq_some_iff.1 hsend
      cases hsend
      obtain ⟨hfresh, -⟩ := h.owned.alloc halloc fun j => rfl
      have hsized := (h.sized.alloc halloc).onBitstream hpack (keepsSize_pack _ _ _ _)
      refine h.onSocket rfl rfl howned ?_ fun j hj => ?_
      · have hset : (s₂.setPacket packet (netPacketAddr (s₂.packet packet)
            (config.memory i).address)).Sized := hsized.setPacket (hsized packet)
        exact hset.send.of_packets fun j => congrArg NetPacket.bitstream packet_release
      · have hne : j ≠ packet := by
          rintro rfl
          exact List.count_eq_zero.1 hfresh (List.mem_append_right _ hj)
        refine packet_release.trans (((queues_send _ packet).packet j hne).trans
          (((touches_setPacket _ packet _).packet j hne).trans ?_))
        rw [(touches_onBitstream hpack).packet j hne, (touches_alloc halloc).packet j hne]
  · cases hsend
    exact h

theorem StreamHeld.sendStreams {object : StreamObject} {streams : List Nat}
    (h : StreamHeld config extra) (hsend : sendStreams object streams config = some config') :
    StreamHeld config' extra :=
  sendStreams_inv (P := fun c => StreamHeld c extra) (fun h hfirst => h.streamSend hfirst) h hsend

theorem StreamHeld.streamTimerCallback {object : StreamObject} (h : StreamHeld config extra)
    (htimer : streamTimerCallback config object = some config') : StreamHeld config' extra := by
  cases streamTimerCallback_tick htimer with
  | idle _ => exact h
  | updated _ hupdate =>
    obtain ⟨hsocket, hheld⟩ := updateStreams_held hupdate
    exact h.congr hsocket hheld
  | @sent config₁ _ _ hupdate hsend =>
    obtain ⟨hsocket, hheld⟩ := updateStreams_held hupdate
    have hnoted : StreamHeld (config₁.note .update) extra := h.congr hsocket hheld
    exact hnoted.sendStreams hsend

/-! ## Received packets -/

/-- The code that runs has read the packet, and gives it back. -/
theorem StreamHeld.released (h : StreamHeld config [packet])
    (hsocket : config'.socket = netPacketRelease config.socket packet)
    (hheld : config'.held = config.held) : StreamHeld config' [] where
  owned := by
    rw [hsocket, hheld]
    exact h.owned.release fun j => count_cons _ _ _
  nodup := by
    rw [hheld]
    exact (List.nodup_cons.1 h.nodup).2
  sized := by
    rw [hsocket]
    exact h.sized.of_packets fun j => congrArg NetPacket.bitstream packet_release
  unread := fun j hj => by
    rw [hheld] at hj
    rw [hsocket, packet_release]
    exact h.unread j hj

theorem StreamHeld.onPacket (h : StreamHeld config [packet]) {α : Type} {op : BitM α} {a : α}
    {socket : NetSocket} (hop : config.socket.onBitstream packet op = some (a, socket))
    (hkeeps : KeepsSize op) : StreamHeld (config.onSocket socket) [packet] := by
  refine h.onSocket rfl rfl (h.owned.onBitstream hop) (h.sized.onBitstream hop hkeeps)
    fun j hj => (touches_onBitstream hop).packet j ?_
  rintro rfl
  exact (List.nodup_cons.1 h.nodup).1 hj

theorem StreamHeld.streamReceiveBlock {stack : StreamObject} (h : StreamHeld config [packet])
    (hblock : streamReceiveBlock config packet stack = some config') : StreamHeld config' [] := by
  cases streamReceiveBlock_receive hblock with
  | invalid hheader _ =>
    exact (h.onPacket hheader (keepsSize_unpackHeader _ _ _)).released rfl rfl
  | @unknown _ _ _ socket hheader _ =>
    exact (h.onPacket hheader (keepsSize_unpackHeader _ _ _)).released rfl
      (@streamsHeld_dispatch (config.onSocket socket) (.add (socket.packet packet).addr) rfl)
  | known hheader _ hdata _ _ hset =>
    subst hset
    have hread := h.onPacket hheader (keepsSize_unpackHeader _ _ _)
    have hread' := hread.onPacket hdata (keepsSize_unpackData _)
    split <;> exact hread'.released rfl rfl

theorem StreamHeld.read (h : StreamHeld config []) {datagram : Datagram} {socket : NetSocket}
    (hlength : datagram.bytes.length ≤ kNetPacketMaxLen)
    (hread : netSocketReadEvent config.socket datagram = some (packet, socket)) :
    StreamHeld { config.onSocket socket with received := config.received ++ [packet] } [] := by
  have howned := (h.owns.read hread).owned
  obtain ⟨s₁, halloc, rfl⟩ := netSocketReadEvent_eq hread
  obtain ⟨hfresh, -⟩ := h.owned.alloc halloc fun j => rfl
  have hnot : packet ∉ config.held := List.count_eq_zero.1 hfresh
  have hperm : (config.received ++ [packet] ++
      config.streamDispatchQueue.filterMap StreamBlock.packet).Perm (packet :: config.held) := by
    rw [List.append_assoc, List.singleton_append]
    exact List.perm_middle
  refine ⟨howned, hperm.nodup_iff.2 (List.nodup_cons.2 ⟨hnot, h.nodup⟩), ?_, fun j hj => ?_⟩
  · refine (h.sized.alloc halloc).setPacket ?_
    exact (length_overwrite (show 0 + _ ≤ _ by rw [h.sized packet]; omega)).trans (h.sized packet)
  · rcases List.mem_cons.1 (hperm.subset hj) with rfl | hj
    · show ((s₁.setPacket j _).packet j).Unread
      rw [packet_setPacket_self]
      rfl
    · have hne : j ≠ packet := fun heq => hnot (heq ▸ hj)
      show ((s₁.setPacket packet _).packet j).Unread
      rw [(touches_setPacket _ packet _).packet j hne, (touches_alloc halloc).packet j hne]
      exact h.unread j hj

/-- A read event that hands its packet to nobody. -/
theorem StreamHeld.unreadEvent (h : StreamHeld config []) {recvfrom : RecvFrom} {socket : NetSocket}
    (hread : netSocketRead config.socket true recvfrom = (none, socket))
    (hunread : Unread config.socket socket) : StreamHeld (config.onSocket socket) [] :=
  h.onSocket rfl rfl (hunread.owned _ h.owned) (h.sized.read hread) fun j hj =>
    hunread.packet _ h.owned j (.inl (List.count_pos_iff.2 hj))

end Rules

/-! ## Steps -/

def StreamAction.isRead : StreamAction → Bool
  | .read _ => true
  | _ => false

/-- What a step does with the packets. -/
inductive StreamPackets (config : StreamConfiguration) : StreamAction → StreamConfiguration → Prop
  | kept {action : StreamAction} {config' : StreamConfiguration}
    (hsocket : config'.socket = config.socket) (hheld : config'.held.Perm config.held)
    (haction : action.isRead = false) : StreamPackets config action config'
  | timer {object : StreamObject} {config' : StreamConfiguration}
    (htimer : streamTimerCallback config object = some config') :
    StreamPackets config (.tick object) config'
  | receive {packet : Nat} {rest : List StreamBlock} {stack : StreamObject}
    {config' : StreamConfiguration} (hqueue : config.streamDispatchQueue = .receive packet :: rest)
    (hblock : streamReceiveBlock { config with streamDispatchQueue := rest } packet stack =
      some config') : StreamPackets config (.block stack) config'
  | read {recvfrom : RecvFrom} {datagram : Datagram} {packet : Nat} {socket : NetSocket}
    (hread : netSocketRead config.socket true recvfrom = (some packet, socket))
    (hlength : datagram.bytes.length ≤ kNetPacketMaxLen)
    (hevent : netSocketReadEvent config.socket datagram = some (packet, socket)) :
    StreamPackets config (.read recvfrom)
      { config.onSocket socket with received := config.received ++ [packet] }
  | unread {recvfrom : RecvFrom} {socket : NetSocket}
    (hread : netSocketRead config.socket true recvfrom = (none, socket))
    (hunread : Unread config.socket socket) :
    StreamPackets config (.read recvfrom) (config.onSocket socket)
  | socketBlock : StreamPackets config .socketBlock (config.onSocket (netSocketRunBlock config.socket))
  | write : StreamPackets config .write (config.onSocket (netSocketWriteEvent config.socket))

section Steps

variable {config config' : StreamConfiguration} {action : StreamAction}

theorem streamsHeld_suspend : config.suspended.socket = config.socket ∧
    config.suspended.held = config.held := by
  unfold StreamConfiguration.suspended
  split <;> exact ⟨rfl, rfl⟩

theorem streamsHeld_resume : (streamResume config).socket = config.socket ∧
    (streamResume config).held = config.held := by
  unfold streamResume
  split <;> exact ⟨rfl, rfl⟩

theorem streamsHeld_add (address : NetAddr) :
    (streamAddBlock config address).socket = config.socket ∧
      (streamAddBlock config address).held = config.held := by
  unfold streamAddBlock
  split
  · exact ⟨rfl, rfl⟩
  · exact streamsHeld_resume

theorem streamsHeld_remove (address : NetAddr) :
    (config.removed address).socket = config.socket ∧
      (config.removed address).held = config.held := by
  unfold StreamConfiguration.removed
  split
  · exact ⟨rfl, rfl⟩
  · dsimp only
    split
    · exact streamsHeld_suspend
    · exact ⟨rfl, rfl⟩

/-- The callback queues a block for its packet. -/
theorem streamsHeld_callback {i packet : Nat} (hget : config.received[i]? = some packet) :
    ({ config with received := config.received.eraseIdx i }.dispatch (.receive packet)).held.Perm
      config.held := by
  simp only [StreamConfiguration.held, StreamConfiguration.dispatch, List.filterMap_append,
    List.filterMap_cons, List.filterMap_nil, StreamBlock.packet, ← List.append_assoc]
  refine (List.perm_append_comm).trans ?_
  exact (perm_of_getElem? hget).append_right _

theorem streamStep_packets (hstep : streamStep config action = some config') :
    StreamPackets config action config' := by
  cases action with
  | add address | remove address =>
    cases hstep
    exact .kept rfl (.of_eq (streamsHeld_dispatch rfl)) rfl
  | suspend =>
    obtain ⟨-, rfl⟩ := streamSuspend_iff.1 hstep
    exact .kept streamsHeld_suspend.1 (.of_eq streamsHeld_suspend.2) rfl
  | resume =>
    cases hstep
    exact .kept streamsHeld_resume.1 (.of_eq streamsHeld_resume.2) rfl
  | tick updateObject => exact .timer hstep
  | block stack =>
    simp only [streamStep] at hstep
    split at hstep
    · cases hstep
      exact .kept rfl (.refl _) rfl
    · rename_i block rest hqueue
      cases block with
      | add address =>
        cases hstep
        obtain ⟨hsocket, hheld⟩ :=
          @streamsHeld_add { config with streamDispatchQueue := rest } address
        exact .kept hsocket (.of_eq (hheld.trans (streamsHeld_popped hqueue rfl))) rfl
      | remove address =>
        obtain ⟨-, rfl⟩ := streamRemoveBlock_iff.1 hstep
        obtain ⟨hsocket, hheld⟩ :=
          @streamsHeld_remove { config with streamDispatchQueue := rest } address
        exact .kept hsocket (.of_eq (hheld.trans (streamsHeld_popped hqueue rfl))) rfl
      | timeout i =>
        cases hstep
        exact .kept rfl (.of_eq (streamsHeld_popped hqueue rfl)) rfl
      | receive packet => exact .receive hqueue hstep
  | read recvfrom =>
    simp only [streamStep] at hstep
    cases hread : netSocketRead config.socket true recvfrom with
    | mk o socket =>
      rw [hread] at hstep
      rcases netSocketRead_cases hread with
        ⟨datagram, packet, -, -, -, hlength, rfl, hevent⟩ | ⟨rfl, hunread⟩
      · cases hstep
        exact .read hread hlength hevent
      · cases hstep
        exact .unread hread hunread
  | callback i =>
    simp only [streamStep] at hstep
    split at hstep <;> cases hstep
    · exact .kept rfl (.refl _) rfl
    · rename_i packet hget
      exact .kept rfl (streamsHeld_callback hget) rfl
  | socketBlock =>
    cases hstep
    exact .socketBlock
  | write =>
    cases hstep
    exact .write

/-- The block that runs takes its packet. -/
theorem streamsHeld_receive {packet : Nat} {rest : List StreamBlock}
    (hqueue : config.streamDispatchQueue = .receive packet :: rest) :
    config.held.Perm (packet :: { config with streamDispatchQueue := rest }.held) := by
  simp only [StreamConfiguration.held, hqueue, StreamBlock.packet, List.filterMap_cons]
  exact List.perm_middle

/-- **One step** of the streams, whoever else holds packets of the socket. -/
theorem streamStep_owns {others : Nat → Nat} (h : config.Owns others)
    (hstep : streamStep config action = some config') : config'.Owns others := by
  cases streamStep_packets hstep with
  | kept hsocket hheld _ => exact h.perm hsocket fun j => by rw [hheld.count_eq]
  | timer htimer => exact h.streamTimerCallback htimer
  | @receive packet rest stack _ hqueue hblock =>
    have hpopped : { config with streamDispatchQueue := rest }.Owns
        fun j => others j + if j = packet then 1 else 0 := by
      refine h.perm rfl fun j => ?_
      rw [(streamsHeld_receive hqueue).count_eq, count_cons]
      omega
    exact hpopped.streamReceiveBlock hblock
  | read _ _ hevent => exact h.read hevent
  | unread _ hunread => exact hunread.owned _ h
  | socketBlock => exact NetSocket.Owned.runBlock h
  | write => exact NetSocket.Owned.writeEvent h

/-- **One step** of the streams leaves every packet with one holder. -/
theorem streamStep_held (h : StreamHeld config []) (hstep : streamStep config action = some config') :
    StreamHeld config' [] := by
  cases streamStep_packets hstep with
  | kept hsocket hheld _ => exact h.perm hsocket hheld hheld.subset
  | timer htimer => exact h.streamTimerCallback htimer
  | @receive packet rest stack _ hqueue hblock =>
    have hheld := streamsHeld_receive hqueue
    have hpopped : StreamHeld { config with streamDispatchQueue := rest } [packet] :=
      h.perm rfl hheld.symm fun j hj => hheld.symm.subset (.tail _ hj)
    exact hpopped.streamReceiveBlock hblock
  | read _ hlength hevent => exact h.read hlength hevent
  | unread hread hunread => exact h.unreadEvent hread hunread
  | socketBlock =>
    exact h.onSocket rfl rfl h.owned.runBlock
      (h.sized.of_packets fun j => congrArg NetPacket.bitstream packet_runBlock)
      fun j _ => packet_runBlock
  | write =>
    exact h.onSocket rfl rfl h.owned.writeEvent
      (h.sized.of_packets fun j => congrArg NetPacket.bitstream packet_writeEvent)
      fun j _ => packet_writeEvent

/-! ## Packets left to nobody -/

theorem streamSend_unclaimed {i : Nat} {object : StreamObject}
    (h : streamSend config i object = some config') :
    config'.socket.unclaimed = config.socket.unclaimed := by
  cases streamSend_cases h with
  | skipped _ => rfl
  | @sent packet s₁ s₂ s₃ _ _ halloc hpack hsend _ =>
    subst hsend
    have haddressed := touches_setPacket s₂ packet
      (netPacketAddr (s₂.packet packet) (config.memory i).address)
    have hqueues := (touches_alloc halloc).queues ((touches_onBitstream hpack).queues
      (haddressed.queues (queues_send _ packet)))
    exact hqueues.unclaimed

theorem sendStreams_unclaimed {object : StreamObject} {streams : List Nat}
    (h : sendStreams object streams config = some config') :
    config'.socket.unclaimed = config.socket.unclaimed :=
  sendStreams_inv (P := fun c => c.socket.unclaimed = config.socket.unclaimed)
    (fun hsame hsend => (streamSend_unclaimed hsend).trans hsame) rfl h

theorem streamTimerCallback_unclaimed {object : StreamObject}
    (h : streamTimerCallback config object = some config') :
    config'.socket.unclaimed = config.socket.unclaimed := by
  cases streamTimerCallback_tick h with
  | idle _ => rfl
  | updated _ hupdate => rw [(updateStreams_held hupdate).1]
  | @sent config₁ _ _ hupdate hsend =>
    have hsent := sendStreams_unclaimed hsend
    exact hsent.trans (congrArg NetSocket.unclaimed (updateStreams_held hupdate).1)

theorem streamReceiveBlock_unclaimed {packet : Nat} {stack : StreamObject}
    (h : streamReceiveBlock config packet stack = some config') :
    config'.socket.unclaimed = config.socket.unclaimed := by
  cases streamReceiveBlock_receive h with
  | invalid hheader _ => exact (touches_onBitstream hheader).unclaimed
  | unknown hheader _ => exact (touches_onBitstream hheader).unclaimed
  | known hheader _ hdata _ _ hset =>
    subst hset
    have htouches := (touches_onBitstream hheader).trans (touches_onBitstream hdata)
    split <;> exact htouches.unclaimed

/-- The step leaves a packet to nobody: an empty datagram is read while the pool has a packet. -/
def Strands (config : StreamConfiguration) : StreamAction → Prop
  | .read recvfrom => recvfrom.Empty ∧ netPacketAlloc config.socket ≠ none
  | _ => False

instance (config : StreamConfiguration) : DecidablePred (Strands config)
  | .read recvfrom =>
    have : Decidable (netPacketAlloc config.socket ≠ none) :=
      decidable_of_iff _ Option.isSome_iff_ne_none
    inferInstanceAs (Decidable (recvfrom.Empty ∧ netPacketAlloc config.socket ≠ none))
  | .add _ | .remove _ | .suspend | .resume | .tick _ | .block _ | .callback _ | .socketBlock
  | .write => .isFalse id

theorem streamStep_unclaimed (hstep : streamStep config action = some config') :
    (Strands config action ∧ ∃ i socket, netPacketAlloc config.socket = some (i, socket) ∧
      config'.socket.unclaimed = config.socket.unclaimed ++ [i]) ∨
    ¬ Strands config action ∧ config'.socket.unclaimed = config.socket.unclaimed := by
  have hread : ∀ {recvfrom : RecvFrom} {packet : Option Nat} {socket : NetSocket},
      netSocketRead config.socket true recvfrom = (packet, socket) →
      (Strands config (.read recvfrom) ∧ ∃ i s₁, netPacketAlloc config.socket = some (i, s₁) ∧
        socket.unclaimed = config.socket.unclaimed ++ [i]) ∨
      ¬ Strands config (.read recvfrom) ∧ socket.unclaimed = config.socket.unclaimed := by
    intro recvfrom packet socket hread
    rcases netSocketRead_unclaimed hread with ⟨i, s₁, hempty, halloc, hunclaimed⟩ |
      ⟨hnone, hunclaimed⟩
    · have hsome : netPacketAlloc config.socket ≠ none := by
        rw [halloc]
        exact Option.some_ne_none _
      exact .inl ⟨⟨hempty, hsome⟩, i, s₁, halloc, hunclaimed⟩
    · exact .inr ⟨fun hstrands => hstrands.2 (hnone hstrands.1), hunclaimed⟩
  cases streamStep_packets hstep with
  | kept hsocket _ haction =>
    refine .inr ⟨?_, by rw [hsocket]⟩
    cases action with
    | read _ => cases haction
    | _ => exact id
  | timer htimer => exact .inr ⟨id, streamTimerCallback_unclaimed htimer⟩
  | @receive packet rest stack _ _ hblock =>
    have hread := streamReceiveBlock_unclaimed hblock
    exact .inr ⟨id, hread⟩
  | read hevent _ _ => exact hread hevent
  | unread hevent _ => exact hread hevent
  | socketBlock => exact .inr ⟨id, unclaimed_runBlock⟩
  | write => exact .inr ⟨id, unclaimed_writeEvent⟩

end Steps

theorem streamHeld_run {packets : Nat → Vector UInt8 kNetPacketMaxLen} {suspendCallback : Bool}
    {actions : List StreamAction} {config : StreamConfiguration}
    (hrun : run streamStep (streamSetup packets suspendCallback) actions = some config) :
    StreamHeld config [] :=
  run_inv (P := fun config => StreamHeld config []) (streamHeld_setup packets suspendCallback)
    (fun _ _ _ h hstep => streamStep_held h hstep) hrun

/-- The buffer of a packet whose block is next. -/
theorem StreamHeld.receivedStream {config : StreamConfiguration} (h : StreamHeld config [])
    {packet : Nat} {rest : List StreamBlock}
    (hqueue : config.streamDispatchQueue = .receive packet :: rest) :
    ∃ buffer, (config.socket.packet packet).bitstream = UniversalNetwork.receivedStream buffer := by
  have hmem : packet ∈ config.held := by
    simp [StreamConfiguration.held, hqueue, StreamBlock.packet]
  refine ⟨⟨(config.socket.packet packet).bitstream.data.toArray, ?_⟩, h.unread packet hmem⟩
  simpa using h.sized packet

end UniversalNetwork
