import UniversalNetwork.Datagram
import UniversalNetwork.Transaction.Exchange
import UniversalNetwork.Transaction.Payload

/-!
# What the packets of a configuration hold

`config.Unheld i`: nobody refers to packet `i`. A step writes only to packets that are unheld, and
advances the bit streams of received ones, so the tag of a held packet stays (`Move.tag`).

`Contents out inn config`: the packets to be sent carry what the law `out` allows for their tag, and
those received what `inn` allows, up to the point where they are read. `Move.contents`: a step keeps
it, if the packets it fills obey the laws.
-/

namespace UniversalNetwork

open Lib

/-! ## Packets that nobody holds -/

def TransactionConfiguration.Unheld (config : TransactionConfiguration) (i : Nat) : Prop :=
  i ∉ config.owners ∧ i ∉ config.socket.socketDispatchQueue ∧ i ∉ config.socket.pendingPackets ∧
    i ∉ config.socket.unclaimed

section Unheld

variable {config config' : TransactionConfiguration} {action : TransactionAction} {i j packet : Nat}

theorem Holding.unheld (h : Holding config [packet]) : config.Unheld packet := by
  obtain ⟨hqueue, hpending⟩ := h.unsent packet List.mem_cons_self
  refine ⟨(List.nodup_cons.1 h.nodup).1, hqueue, hpending, h.owned.claimed ?_⟩
  exact Nat.add_pos_left (List.count_pos_iff.2 List.mem_cons_self) _

theorem Holding.unheld_alloc {socket : NetSocket} (h : Holding config [])
    (ha : netPacketAlloc config.socket = some (i, socket)) : config.Unheld i := by
  obtain ⟨hfresh, hqueue, hpending, -⟩ := h.owned.alloc ha fun j => rfl
  exact ⟨List.count_eq_zero.1 hfresh, hqueue, hpending, h.owned.alloc_claimed ha⟩

theorem tag_onBitstream {s s' : NetSocket} {α : Type} {op : BitM α} {a : α}
    (h : s.onBitstream i op = some (a, s')) (j : Nat) :
    (s'.packet j).tag = (s.packet j).tag := by
  obtain ⟨bitstream, -, rfl⟩ := onBitstream_eq h
  by_cases hj : j = i
  · rw [hj, packet_setPacket_self]
  · rw [(touches_setPacket s i _).packet j hj]

theorem tag_addr (s : NetSocket) (i : Nat) (addr : NetAddr) (j : Nat) :
    ((s.setPacket i (netPacketAddr (s.packet i) addr)).packet j).tag = (s.packet j).tag := by
  by_cases hj : j = i
  · rw [hj, packet_setPacket_self]
    rfl
  · rw [(touches_setPacket s i _).packet j hj]

theorem tag_send (s : NetSocket) (i j : Nat) :
    ((netSocketSend s i).packet j).tag = (s.packet j).tag := by
  by_cases hj : j = i
  · rw [hj, packet_send_self]
  · rw [(queues_send s i).packet j hj]

theorem tag_answered {s₁ s₂ : NetSocket} {reply id : Nat} (h : Holding config [])
    (halloc : netPacketAlloc config.socket = some (reply, s₁))
    (hpack : s₁.onBitstream reply (packResponse id .success) = some ((), s₂))
    (hi : ¬ config.Unheld i) :
    ((config.answered packet reply s₂).socket.packet i).tag = (config.socket.packet i).tag := by
  have hne : i ≠ reply := by
    rintro rfl
    exact hi (h.unheld_alloc halloc)
  exact congrArg NetPacket.tag
    (packet_release.trans ((queues_sendFresh halloc hpack _ _).packet i hne))

/-- A read event that hands its packet to nobody leaves the others alone. -/
theorem Holding.packet_unread {socket : NetSocket} (h : Holding config [])
    (hunread : Unread config.socket socket) (hi : ¬ config.Unheld i) :
    socket.packet i = config.socket.packet i := by
  refine hunread.packet _ h.owned i ?_
  unfold TransactionConfiguration.Unheld at hi
  rw [List.nil_append, List.count_pos_iff]
  tauto

/-- **Tags stay** on packets that somebody holds. -/
theorem Move.tag (hmove : Move config action config') (h : Holding config [])
    (hi : ¬ config.Unheld i) : (config'.socket.packet i).tag = (config.socket.packet i).tag := by
  cases hmove with
  | idle hqueue => rfl
  | dispatched haction hplain => rfl
  | @requested addr object packet socket socket' halloc hpack =>
    have hne : i ≠ packet := by
      rintro rfl
      exact hi (h.unheld_alloc halloc)
    exact congrArg NetPacket.tag (((touches_alloc halloc).trans ((touches_onBitstream hpack).trans
      (touches_setPacket _ _ _))).packet i hne)
  | sentOff hcall hlive => exact (tag_send _ _ _).trans (tag_addr _ _ _ _)
  | armed hcall hlive => rfl
  | unread hread hunread => exact congrArg NetPacket.tag (h.packet_unread hunread hi)
  | @read datagram packet socket hlength hread =>
    obtain ⟨s₁, halloc, rfl⟩ := netSocketReadEvent_eq hread
    have hne : i ≠ packet := by
      rintro rfl
      exact hi (h.unheld_alloc halloc)
    exact congrArg NetPacket.tag (((touches_alloc halloc).trans
      (touches_setPacket s₁ packet _)).packet i hne)
  | ignored hreceived hread =>
    refine (congrArg NetPacket.tag packet_release).trans ?_
    rcases hread with rfl | ⟨header, hread⟩
    · rfl
    · exact tag_onBitstream hread i
  | retained hreceived hread hblock =>
    refine (congrArg NetPacket.tag (packet_release.trans packet_retain)).trans ?_
    exact tag_onBitstream hread i
  | inserted hqueue hlive => rfl
  | lost hqueue hsearch => rfl
  | responded hqueue hsearch hlive hread =>
    refine (congrArg NetPacket.tag (packet_release.trans packet_release)).trans ?_
    exact tag_onBitstream hread i
  | @served packet _ _ _ _ _ _ _ _ _ hqueue halloc hpack hread =>
    refine (congrArg NetPacket.tag packet_release).trans ?_
    refine (tag_onBitstream hread i).trans ?_
    exact @tag_answered config i packet _ _ _ _ h halloc hpack hi
  | retried hqueue hsearch hlive hstate hretries => exact tag_send _ _ _
  | timedOut hqueue hsearch hlive hstate hretries => exact congrArg NetPacket.tag packet_release
  | switched hqueue hplain => rfl
  | removedAll hqueue hremove =>
    refine transactionRemoveAll_inv (P := fun c => (c.socket.packet i).tag =
      (config.socket.packet i).tag) ?_ ?_ hremove
    · intro c key t tr hc hsearch hlive
      exact (congrArg NetPacket.tag packet_release).trans hc
    · rfl
  | timeoutFired hlive => rfl
  | socketBlock => exact congrArg NetPacket.tag packet_runBlock
  | write => exact congrArg NetPacket.tag packet_writeEvent

end Unheld

/-! ## Laws -/

/-- The object comes out of the packet as it went in: the unpacker knows its type, its fields are
inside their limits, its encoding fits the packet and the struct the memory it is unpacked to. -/
structure TransactionObject.Deliverable (object : TransactionObject) : Prop where
  wellFormed : object.WellFormed
  fits : (requestBytes 0 object).length ≤ kNetPacketMaxLen
  room : object.bytes ≤ kTransactionObjectSize

instance : DecidablePred TransactionObject.Deliverable := fun object =>
  decidable_of_iff (object.WellFormed ∧ (requestBytes 0 object).length ≤ kNetPacketMaxLen ∧
    object.bytes ≤ kTransactionObjectSize)
    ⟨fun h => ⟨h.1, h.2.1, h.2.2⟩, fun h => ⟨h.wellFormed, h.fits, h.room⟩⟩

/-- The packet a block was queued for, and the type of its message. -/
def Block.opened : Block → Option (Nat × TransactionType)
  | .response packet _ _ => some (packet, .response)
  | .request packet _ _ => some (packet, .request)
  | _ => none

namespace TransactionConfiguration

variable (config : TransactionConfiguration)

def opened : List (Nat × TransactionType) :=
  config.transactionsDispatchQueue.filterMap Block.opened

/-- The packet is queued for sending. -/
def Sending (i : Nat) : Prop :=
  i ∈ config.socket.socketDispatchQueue ∨ i ∈ config.socket.pendingPackets

end TransactionConfiguration

/-- The bit stream of the packet stands at `bs`. -/
structure NetPacket.StandsAt (p : NetPacket) (k : Nat) (bs : List UInt8) : Prop where
  offset : p.bitstream.offset = k
  bound : p.bitstream.bound = kNetPacketMaxLen
  bytes : HasAt p.bitstream.data k bs

section Laws

variable (out inn : Tag → List UInt8 → Prop)

/-- The packet was packed, up to where its bit stream stands. -/
def Packed (p : NetPacket) : Prop :=
  out p.tag (p.bitstream.data.take p.bitstream.offset)

/-- It was packed and sent. -/
structure Loaded (p : NetPacket) : Prop where
  length : p.length = p.bitstream.offset
  packed : Packed out p

def Stored (p : NetPacket) : Prop :=
  ∃ bs, inn p.tag bs ∧ p.StandsAt 0 bs

/-- The header has been read. -/
def Opened (type : TransactionType) (p : NetPacket) : Prop :=
  ∃ id rest, inn p.tag (wireHeader id type ++ rest) ∧ p.StandsAt 5 rest

structure Contents (config : TransactionConfiguration) : Prop where
  sized : config.socket.Sized
  sent : ∀ e ∈ config.socket.sent, out e.2.tag e.2.bytes
  packed : ∀ i ∈ config.packets, Packed out (config.socket.packet i)
  sending : ∀ i, config.Sending i → Loaded out (config.socket.packet i)
  received : ∀ e ∈ config.received, Stored inn (config.socket.packet e.1)
  opened : ∀ e ∈ config.opened, Opened inn e.2 (config.socket.packet e.1)

/-- What the law allows can be unpacked. -/
structure Readable : Prop where
  header : ∀ {tag bs}, inn tag bs → ∃ id type rest, bs = wireHeader id type ++ rest
  request : ∀ {tag id rest}, inn tag (wireHeader id .request ++ rest) →
    ∃ object, Reads (transactionProtocolUnpackRequest requestMemory) rest (.valid, object)
  response : ∀ {tag id rest}, inn tag (wireHeader id .response ++ rest) →
    ∃ type, Reads transactionProtocolUnpackResponse rest (.valid, type)

end Laws

section Packets

variable {out inn : Tag → List UInt8 → Prop} {s s' s'' : NetSocket} {i k : Nat}
  {bs : List UInt8}

theorem take_of_hasAt {data : List UInt8} (h : HasAt data 0 bs) : data.take bs.length = bs := by
  have hprefix : bs <+: data := h
  exact (List.prefix_iff_eq_take.1 hprefix).symm

theorem Loaded.law {p : NetPacket} (h : Loaded out p) :
    out p.tag (p.bitstream.data.take p.length) := by
  rw [h.length]
  exact h.packed

/-- A fresh packet is filled with `bs`. -/
theorem packed_fresh {op : BitM Unit} (hw : Writes op bs ())
    (ha : netPacketAlloc s = some (i, s')) (hsized : s.Sized)
    (hfit : bs.length ≤ kNetPacketMaxLen) (hop : s'.onBitstream i op = some ((), s''))
    {tag : Tag} (hlaw : out tag bs) : s''.Sized ∧ ∀ p : NetPacket,
      p.bitstream = (s''.packet i).bitstream → p.tag = tag → Packed out p := by
  obtain ⟨s₂, hop', hsized₂, hwritten⟩ := onBitstream_of_writes hw ha hsized hfit
  obtain rfl : s₂ = s'' := congrArg Prod.snd (Option.some.inj (hop'.symm.trans hop))
  refine ⟨hsized₂, fun p hstream htag => ?_⟩
  have hoffset : ((s.packet i).written bs).offset = bs.length := Nat.zero_add _
  rw [Packed, htag, hstream, hwritten, hoffset, take_of_hasAt (hasAt_written (hsized i) hfit)]
  exact hlaw

/-- It is sent. -/
theorem loaded_sendFresh {op : BitM Unit} (hw : Writes op bs ())
    (ha : netPacketAlloc s = some (i, s')) (hsized : s.Sized)
    (hfit : bs.length ≤ kNetPacketMaxLen) (hop : s'.onBitstream i op = some ((), s''))
    (addr : NetAddr) {tag : Tag} (hlaw : out tag bs) :
    (netSocketSend ((s''.setPacket i (netPacketAddr (s''.packet i) addr)).setTag i tag) i).Sized ∧
    Loaded out ((netSocketSend ((s''.setPacket i
      (netPacketAddr (s''.packet i) addr)).setTag i tag) i).packet i) := by
  obtain ⟨hsized₂, hpacked⟩ := packed_fresh hw ha hsized hfit hop hlaw
  refine ⟨hsized₂.sendTo addr tag, ?_⟩
  rw [packet_send_self, NetSocket.setTag, packet_setPacket_self, packet_setPacket_self]
  exact ⟨rfl, hpacked _ rfl rfl⟩

/-- The packet is read, and what was read is what it stood at. -/
theorem NetPacket.StandsAt.read {α : Type} {op : BitM α} {a a' : α} {cs : List UInt8}
    (h : (s.packet i).StandsAt k (bs ++ cs)) (hsized : s.Sized)
    (hk : k ≤ kNetPacketMaxLen) (hr : Reads op bs a)
    (hop : s.onBitstream i op = some (a', s')) :
    a' = a ∧ s'.Sized ∧ (s'.packet i).StandsAt (k + bs.length) cs := by
  obtain ⟨hbs, hcs⟩ := hasAt_append.1 h.bytes
  obtain ⟨s₁, hop', hsized', hpacket⟩ := onBitstream_of_reads hr hsized h.bound
    (by rw [h.offset]; exact hk) (by rw [h.offset]; exact hbs)
  obtain ⟨rfl, rfl⟩ := Prod.mk.inj (Option.some.inj (hop.symm.trans hop'))
  refine ⟨rfl, hsized', ?_⟩
  constructor
  · rw [hpacket, Bitstream.advance, h.offset]
  · rw [hpacket]
    exact h.bound
  · rw [hpacket]
    exact hcs

theorem NetPacket.StandsAt.read_all {α : Type} {op : BitM α} {a a' : α}
    (h : (s.packet i).StandsAt k bs) (hsized : s.Sized) (hk : k ≤ kNetPacketMaxLen)
    (hr : Reads op bs a) (hop : s.onBitstream i op = some (a', s')) : a' = a ∧ s'.Sized := by
  rw [← List.append_nil bs] at h
  obtain ⟨ha, hsized', -⟩ := h.read hsized hk hr hop
  exact ⟨ha, hsized'⟩

/-- The header of a stored packet. -/
theorem Stored.read (h : Stored inn (s.packet i)) (hinn : Readable inn) (hsized : s.Sized)
    {header : UnpackResult × UInt32 × UInt32}
    (hop : s.onBitstream i (transactionProtocolUnpackHeader 0 0) = some (header, s')) :
    ∃ id type, header = (.valid, id, type.code) ∧ Opened inn type (s'.packet i) := by
  obtain ⟨bs, hlaw, hstands⟩ := h
  obtain ⟨id, type, rest, rfl⟩ := hinn.header hlaw
  obtain ⟨rfl, -, hopened⟩ :=
    hstands.read hsized (Nat.zero_le _) (reads_header 0 0 id type) hop
  refine ⟨id % 256, type, rfl, id, rest, ?_, hopened⟩
  rw [tag_onBitstream hop]
  exact hlaw

theorem NetPacket.StandsAt.inside (h : (s.packet i).StandsAt k bs) (hsized : s.Sized)
    (hk : k ≤ kNetPacketMaxLen) : (s.packet i).bitstream.Inside kNetPacketMaxLen where
  sized := ⟨h.bound.trans (hsized i).symm, h.bound ▸ (by decide : kNetPacketMaxLen < 2 ^ 64)⟩
  bound_eq := h.bound
  offset_le := h.offset ▸ hk

/-- A local decoder moves the bit stream of its packet. -/
theorem Local.onBitstream {α : Type} {op : BitM α} {a : α} (hop : Local op)
    (h : (s.packet i).StandsAt k bs) (hsized : s.Sized) (hk : k ≤ kNetPacketMaxLen)
    (hrun : s.onBitstream i op = some (a, s')) :
    s'.Sized ∧ (s'.packet i).bitstream.bound = kNetPacketMaxLen := by
  obtain ⟨bitstream, hmoved, rfl⟩ := onBitstream_eq hrun
  have hin := h.inside hsized hk
  obtain ⟨l, rfl, -, -⟩ := hop.moves hin.sized (hin.bound_eq ▸ hin.offset_le) hmoved
  refine ⟨hsized.setPacket (hsized i), ?_⟩
  rw [packet_setPacket_self]
  exact h.bound

/-- The decoders leave the size of the packets alone, whatever they read. -/
theorem Stored.sized (h : Stored inn (s.packet i)) (hsized : s.Sized)
    {header : UnpackResult × UInt32 × UInt32}
    (hread : s.onBitstream i (transactionProtocolUnpackHeader 0 0) = some (header, s')) :
    s'.Sized := by
  obtain ⟨bs, -, hstands⟩ := h
  exact ((local_transactionHeader 0 0).onBitstream hstands hsized (Nat.zero_le _) hread).1

theorem Opened.sized {type : TransactionType} (h : Opened inn type (s.packet i)) (hsized : s.Sized)
    {α : Type} {op : BitM α} (hop : Local op) {a : α} (hread : s.onBitstream i op = some (a, s')) :
    s'.Sized := by
  obtain ⟨_, _, -, hstands⟩ := h
  exact (hop.onBitstream hstands hsized (by decide) hread).1

theorem receivedBlock_opened {packet receipt : Nat} {id : UInt32} {type : TransactionType}
    {block : Block} (h : receivedBlock packet receipt id type.code = some block) :
    block.opened = some (packet, type) := by
  cases type with
  | request =>
    obtain rfl := Option.some.inj h
    rfl
  | response =>
    obtain rfl := Option.some.inj h
    rfl

end Packets

/-! ## Rules -/

section Rules

variable {out out' inn inn' : Tag → List UInt8 → Prop} {config config' : TransactionConfiguration}
  {action : TransactionAction} {p : Nat}

theorem Contents.mono (h : Contents out inn config) (hout : ∀ tag bs, out tag bs → out' tag bs)
    (hinn : ∀ tag bs, inn tag bs → inn' tag bs) : Contents out' inn' config where
  sized := h.sized
  sent := fun e he => hout _ _ (h.sent e he)
  packed := fun i hi => hout _ _ (h.packed i hi)
  sending := fun i hi => ⟨(h.sending i hi).length, hout _ _ (h.sending i hi).packed⟩
  received := fun e he => by
    obtain ⟨bs, hlaw, hstands⟩ := h.received e he
    exact ⟨bs, hinn _ _ hlaw, hstands⟩
  opened := fun e he => by
    obtain ⟨id, rest, hlaw, hstands⟩ := h.opened e he
    exact ⟨id, rest, hinn _ _ hlaw, hstands⟩

theorem contents_setup (agent : Agent) (memory : Nat → Vector UInt8 kNetPacketMaxLen)
    (receiveCallback errorCallback : Bool) :
    Contents out inn (transactionSetup agent memory receiveCallback errorCallback) where
  sized := netSocketCreate_sized memory
  sent := nofun
  packed := nofun
  sending := by
    intro i hi
    rcases hi with hi | hi
    · cases hi
    · cases hi
  received := nofun
  opened := nofun

theorem mem_owners_of_received {e : Nat × Nat} (h : e ∈ config.received) :
    e.1 ∈ config.owners :=
  List.mem_append_right _ (List.mem_map_of_mem (List.mem_append_left _ (List.mem_append_left _ h)))

theorem mem_owners_of_opened {e : Nat × TransactionType} (h : e ∈ config.opened) :
    e.1 ∈ config.owners := by
  obtain ⟨block, hblock, hopened⟩ := List.mem_filterMap.1 h
  have hpacket : ∃ receipt, block.packet = some (e.1, receipt) := by
    cases block <;> simp [Block.opened, Block.packet] at hopened ⊢ <;> simp [← hopened]
  obtain ⟨receipt, hpacket⟩ := hpacket
  have hpending : (e.1, receipt) ∈ config.pending :=
    List.mem_append_right _ (List.mem_filterMap.2 ⟨block, hblock, hpacket⟩)
  exact List.mem_append_right _ (List.mem_map_of_mem (List.mem_append_left config.lost hpending))

theorem TransactionConfiguration.Sending.held (h : config.Sending p) : ¬ config.Unheld p := by
  rintro ⟨-, hqueue, hpending, -⟩
  rcases h with h | h
  · exact hqueue h
  · exact hpending h

/-- A packet that nobody holds is written to, and may take a place. -/
theorem Contents.touch (h : Contents out inn config) (hfree : config.Unheld p)
    (hsized : config'.socket.Sized) (hsent : config'.socket.sent = config.socket.sent)
    (hpacket : ∀ i, i ≠ p → config'.socket.packet i = config.socket.packet i)
    (hpackets : ∀ i ∈ config'.packets,
      i ∈ config.packets ∨ i = p ∧ Packed out (config'.socket.packet p))
    (hsending : ∀ i, config'.Sending i →
      config.Sending i ∨ i = p ∧ Loaded out (config'.socket.packet p))
    (hreceived : ∀ e ∈ config'.received,
      e ∈ config.received ∨ e.1 = p ∧ Stored inn (config'.socket.packet p))
    (hopened : ∀ e ∈ config'.opened,
      e ∈ config.opened ∨ e.1 = p ∧ Opened inn e.2 (config'.socket.packet p)) :
    Contents out inn config' where
  sized := hsized
  sent := by
    rw [hsent]
    exact h.sent
  packed := by
    intro i hi
    rcases hpackets i hi with hi | ⟨rfl, hpacked⟩
    · have hne : i ≠ p := by
        rintro rfl
        exact hfree.1 (List.mem_append_left _ hi)
      rw [hpacket i hne]
      exact h.packed i hi
    · exact hpacked
  sending := by
    intro i hi
    rcases hsending i hi with hi | ⟨rfl, hloaded⟩
    · have hne : i ≠ p := by
        rintro rfl
        exact hi.held hfree
      rw [hpacket i hne]
      exact h.sending i hi
    · exact hloaded
  received := by
    intro e he
    rcases hreceived e he with he | ⟨rfl, hstored⟩
    · have hne : e.1 ≠ p := by
        rintro rfl
        exact hfree.1 (mem_owners_of_received he)
      rw [hpacket e.1 hne]
      exact h.received e he
    · exact hstored
  opened := by
    intro e he
    rcases hopened e he with he | ⟨rfl, hstored⟩
    · have hne : e.1 ≠ p := by
        rintro rfl
        exact hfree.1 (mem_owners_of_opened he)
      rw [hpacket e.1 hne]
      exact h.opened e he
    · exact hstored

/-- Packets leave their places, and stay as they are. -/
theorem Contents.same (h : Contents out inn config)
    (hpacket : ∀ i, config'.socket.packet i = config.socket.packet i)
    (hsent : config'.socket.sent = config.socket.sent)
    (hpackets : config'.packets ⊆ config.packets)
    (hsending : ∀ i, config'.Sending i → config.Sending i)
    (hreceived : config'.received ⊆ config.received) (hopened : config'.opened ⊆ config.opened) :
    Contents out inn config' where
  sized := h.sized.of_packets fun i => by rw [hpacket]
  sent := by
    rw [hsent]
    exact h.sent
  packed := fun i hi => by
    rw [hpacket]
    exact h.packed i (hpackets hi)
  sending := fun i hi => by
    rw [hpacket]
    exact h.sending i (hsending i hi)
  received := fun e he => by
    rw [hpacket]
    exact h.received e (hreceived he)
  opened := fun e he => by
    rw [hpacket]
    exact h.opened e (hopened he)

/-- A block leaves the queue. -/
theorem Contents.popped (h : Contents out inn config) {block : Block} {rest : List Block}
    (hqueue : config.transactionsDispatchQueue = block :: rest) :
    Contents out inn (config.popped rest) := by
  refine h.same (fun _ => rfl) rfl (List.Subset.refl _) (fun _ hi => hi) (List.Subset.refl _) ?_
  show rest.filterMap Block.opened ⊆ config.transactionsDispatchQueue.filterMap Block.opened
  rw [hqueue]
  exact List.filterMap_subset _ (List.subset_cons_self _ _)

/-- A transaction and its packet go. -/
theorem Contents.freed (h : Contents out inn config) {t : Nat} {transaction : Transaction}
    (hlive : config.live t = some transaction)
    (hsocket : config'.socket = netPacketRelease config.socket transaction.packet)
    (hheap : config'.heap = config.heap.set t none) (hreceived : config'.received = config.received)
    (hqueue : config'.transactionsDispatchQueue = config.transactionsDispatchQueue) :
    Contents out inn config' := by
  refine h.same ?_ ?_ ?_ ?_ ?_ ?_
  · intro i
    rw [hsocket]
    exact packet_release
  · rw [hsocket]
    rfl
  · exact fun i hi => (packets_free hlive hheap).subset (List.mem_cons_of_mem _ hi)
  · intro i hi
    unfold TransactionConfiguration.Sending at hi
    rw [hsocket] at hi
    exact hi
  · rw [hreceived]
    exact List.Subset.refl _
  · rw [TransactionConfiguration.opened, hqueue]
    exact List.Subset.refl _

theorem Contents.write (h : Contents out inn config) :
    Contents out inn (config.onSocket (netSocketWriteEvent config.socket)) := by
  by_cases hsending : config.socket.isSending = true
  · obtain ⟨hqueue, hpending, -, hsent⟩ := netSocketFlush_queues config.socket.pendingPackets
      { config.socket with pendingPackets := [] }
    have hwrite : netSocketWriteEvent config.socket = { netSocketFlush { config.socket with
        pendingPackets := [] } config.socket.pendingPackets with isSending := false } := by
      rw [netSocketWriteEvent, if_pos hsending]
    have hsame : ∀ i, (config.onSocket (netSocketWriteEvent config.socket)).socket.packet i =
      config.socket.packet i := fun i => packet_writeEvent
    refine ⟨h.sized.of_packets fun i => congrArg _ packet_writeEvent, ?_, ?_, ?_, ?_, ?_⟩
    · intro e he
      replace he : e ∈ (netSocketWriteEvent config.socket).sent := he
      rw [hwrite] at he
      replace he : e ∈ (netSocketFlush _ _).sent := he
      rw [hsent] at he
      rcases List.mem_append.1 he with he | he
      · exact h.sent e he
      · obtain ⟨i, hi, rfl⟩ := List.mem_map.1 he
        exact (h.sending i (.inr hi)).law
    · intro i hi
      rw [hsame]
      exact h.packed i hi
    · intro i hi
      rw [hsame]
      refine h.sending i ?_
      rcases hi with hi | hi
      · replace hi : i ∈ (netSocketWriteEvent config.socket).socketDispatchQueue := hi
        rw [hwrite] at hi
        exact .inl (hqueue ▸ hi)
      · replace hi : i ∈ (netSocketWriteEvent config.socket).pendingPackets := hi
        rw [hwrite] at hi
        replace hi : i ∈ (netSocketFlush _ _).pendingPackets := hi
        rw [hpending] at hi
        cases hi
    · intro e he
      rw [hsame]
      exact h.received e he
    · intro e he
      rw [hsame]
      exact h.opened e he
  · rw [netSocketWriteEvent, if_neg hsending]
    exact h

theorem Touches.sending {s : NetSocket} (h : Touches p config.socket s) {i : Nat}
    (hi : config'.Sending i)
    (hqueue : config'.socket.socketDispatchQueue = s.socketDispatchQueue)
    (hpending : config'.socket.pendingPackets = s.pendingPackets) : config.Sending i := by
  unfold TransactionConfiguration.Sending at hi
  rw [hqueue, h.queue, hpending, h.pending] at hi
  exact hi

theorem Contents.onSocket (h : Contents out inn config) (hfree : config.Unheld p)
    {socket : NetSocket} (hsized : socket.Sized) (htouch : Touches p config.socket socket) :
    Contents out inn (config.onSocket socket) := by
  refine h.touch hfree hsized htouch.sent htouch.packet (fun _ => .inl) ?_ (fun _ => .inl)
    (fun _ => .inl)
  intro i hi
  exact .inl (htouch.sending hi rfl rfl)

theorem Contents.note (h : Contents out inn config) (es : List Event) :
    Contents out inn (config.note es) :=
  h.same (fun _ => rfl) rfl (List.Subset.refl _) (fun _ => id) (List.Subset.refl _)
    (List.Subset.refl _)

theorem Contents.released (h : Contents out inn config) (packet receipt : Nat) :
    Contents out inn (config.released packet receipt) :=
  h.same (fun _ => packet_release) rfl (List.Subset.refl _) (fun _ => id) (List.Subset.refl _)
    (List.Subset.refl _)

theorem Contents.taken (h : Contents out inn config) (i : Nat) :
    Contents out inn (config.taken i) :=
  h.same (fun _ => rfl) rfl (List.Subset.refl _) (fun _ => id) (List.eraseIdx_subset)
    (List.Subset.refl _)

theorem opened_dispatch {block : Block} (hblock : block.opened = none) :
    (config.dispatch block).opened = config.opened := by
  show (config.transactionsDispatchQueue ++ [block]).filterMap _ = _
  rw [List.filterMap_append, List.filterMap_cons_none hblock, List.filterMap_nil, List.append_nil]
  rfl

theorem mem_opened_head {block : Block} {rest : List Block} {packet : Nat} {type : TransactionType}
    (hqueue : config.transactionsDispatchQueue = block :: rest)
    (hblock : block.opened = some (packet, type)) : (packet, type) ∈ config.opened := by
  rw [TransactionConfiguration.opened, hqueue, List.filterMap_cons_some hblock]
  exact List.mem_cons_self

/-- A fresh packet is filled, sent, and perhaps let go. -/
theorem Queues.sending {s : NetSocket} (h : Queues p config.socket s) {i : Nat}
    (hi : config'.Sending i)
    (hsocket : config'.socket.socketDispatchQueue = s.socketDispatchQueue)
    (hpending : config'.socket.pendingPackets = s.pendingPackets) : config.Sending i ∨ i = p := by
  rcases hi with hi | hi
  · rw [hsocket] at hi
    rcases h.queue with hqueue | hqueue
    · exact .inl (.inl (hqueue ▸ hi))
    · rw [hqueue] at hi
      rcases List.mem_append.1 hi with hi | hi
      · exact .inl (.inl hi)
      · exact .inr (List.mem_singleton.1 hi)
  · rw [hpending, h.pending] at hi
    exact .inl (.inr hi)

theorem Contents.requested (h : Contents out inn config) (hold : Holding config []) {packet : Nat}
    {socket socket' : NetSocket} (halloc : netPacketAlloc config.socket = some (packet, socket))
    {object : TransactionObject}
    (hpack : socket.onBitstream packet (packRequest config.cseq object) = some ((), socket'))
    (hobject : object.Deliverable) (addr : NetAddr)
    (hlaw : out (.request config.agent config.heap.length) (requestBytes config.cseq object)) :
    Contents out inn (config.requested packet socket' addr object) := by
  obtain ⟨hsized, hpacked⟩ := packed_fresh (writes_packRequest config.cseq hobject.wellFormed)
    halloc h.sized hobject.fits hpack hlaw
  have htouch := (touches_alloc halloc).trans ((touches_onBitstream hpack).trans
    (touches_setPacket socket' packet
      { socket'.packet packet with tag := .request config.agent config.heap.length }))
  refine h.touch (hold.unheld_alloc halloc) (hsized.setPacket (hsized packet)) htouch.sent
    htouch.packet ?_ (fun i hi => .inl (htouch.sending hi rfl rfl)) (fun _ => .inl) ?_
  · intro i hi
    replace hi : i ∈ (config.heap ++ [_]).filterMap (Option.map Transaction.packet) := hi
    rw [List.filterMap_append] at hi
    rcases List.mem_append.1 hi with hi | hi
    · exact .inl hi
    · obtain rfl := List.mem_singleton.1 hi
      refine .inr ⟨rfl, ?_⟩
      show Packed out ((socket'.setTag _ _).packet _)
      rw [NetSocket.setTag, packet_setPacket_self]
      exact hpacked _ rfl rfl
  · intro e he
    rw [show (config.requested packet socket' addr object).opened = config.opened from
      @opened_dispatch config (.insert config.heap.length) rfl] at he
    exact .inl he

/-- The packet of a transaction is sent, for the first time or again. -/
theorem Contents.sent_packet (h : Contents out inn config) (hpacket : p ∈ config.packets)
    {s : NetSocket} (htouch : Touches p config.socket s)
    (hstream : (s.packet p).bitstream = (config.socket.packet p).bitstream)
    (htag : (s.packet p).tag = (config.socket.packet p).tag)
    (hsocket : config'.socket = netSocketSend s p) (hpackets : config'.packets ⊆ config.packets)
    (hreceived : config'.received = config.received) (hopened : config'.opened ⊆ config.opened) :
    Contents out inn config' := by
  have hqueues := htouch.queues (queues_send s p)
  -- the bit streams and the tags stay
  have hsame : ∀ i, (config'.socket.packet i).bitstream = (config.socket.packet i).bitstream ∧
      (config'.socket.packet i).tag = (config.socket.packet i).tag := by
    intro i
    rw [hsocket]
    by_cases hi : i = p
    · rw [hi, packet_send_self]
      exact ⟨hstream, htag⟩
    · rw [hqueues.packet i hi]
      exact ⟨rfl, rfl⟩
  have hpacked : ∀ i, Packed out (config.socket.packet i) → Packed out (config'.socket.packet i) := by
    intro i hi
    rw [Packed, (hsame i).1, (hsame i).2]
    exact hi
  refine ⟨h.sized.of_packets fun i => (hsame i).1, ?_, fun i hi => hpacked i (h.packed i (hpackets hi)),
    ?_, ?_, ?_⟩
  · rw [hsocket, hqueues.sent]
    exact h.sent
  · intro i hi
    by_cases hne : i = p
    · refine ⟨?_, hpacked i (hne ▸ h.packed p hpacket)⟩
      rw [hsocket, hne, packet_send_self]
    · rcases hqueues.sending hi (by rw [hsocket]) (by rw [hsocket]) with hi | hi
      · refine ⟨?_, hpacked i (h.sending i hi).packed⟩
        rw [(hsame i).1, hsocket, hqueues.packet i hne]
        exact (h.sending i hi).length
      · exact absurd hi hne
  · rw [hreceived]
    intro e he
    obtain ⟨bs, hlaw, hstands⟩ := h.received e he
    refine ⟨bs, (hsame e.1).2 ▸ hlaw, ?_⟩
    exact ⟨(hsame e.1).1 ▸ hstands.offset, (hsame e.1).1 ▸ hstands.bound, (hsame e.1).1 ▸ hstands.bytes⟩
  · intro e he
    obtain ⟨id, rest, hlaw, hstands⟩ := h.opened e (hopened he)
    refine ⟨id, rest, (hsame e.1).2 ▸ hlaw, ?_⟩
    exact ⟨(hsame e.1).1 ▸ hstands.offset, (hsame e.1).1 ▸ hstands.bound, (hsame e.1).1 ▸ hstands.bytes⟩

/-- Nobody gets the packet of the read event. -/
theorem Contents.unread (h : Contents out inn config) (hold : Holding config [])
    {recvfrom : RecvFrom} {socket : NetSocket}
    (hread : netSocketRead config.socket true recvfrom = (none, socket))
    (hunread : Unread config.socket socket) : Contents out inn (config.onSocket socket) := by
  have hsame : ∀ i, ¬ config.Unheld i → socket.packet i = config.socket.packet i :=
    fun i => hold.packet_unread hunread
  have howner : ∀ i ∈ config.owners, socket.packet i = config.socket.packet i :=
    fun i hi => hsame i fun hunheld => hunheld.1 hi
  refine ⟨h.sized.read hread, hunread.sent ▸ h.sent, fun i hi => ?_, fun i hi => ?_, fun e he => ?_,
    fun e he => ?_⟩
  · show Packed out (socket.packet i)
    rw [howner i (List.mem_append_left _ hi)]
    exact h.packed i hi
  · have hi' : config.Sending i := by
      unfold TransactionConfiguration.Sending at hi ⊢
      rwa [show (config.onSocket socket).socket = socket from rfl, hunread.queue,
        hunread.pending] at hi
    show Loaded out (socket.packet i)
    rw [hsame i hi'.held]
    exact h.sending i hi'
  · show Stored inn (socket.packet e.1)
    rw [howner e.1 (mem_owners_of_received he)]
    exact h.received e he
  · show Opened inn e.2 (socket.packet e.1)
    rw [howner e.1 (mem_owners_of_opened he)]
    exact h.opened e he

theorem Contents.answered (h : Contents out inn config) (hold : Holding config []) {reply id : Nat}
    {s₁ s₂ : NetSocket} (halloc : netPacketAlloc config.socket = some (reply, s₁))
    (hpack : s₁.onBitstream reply (packResponse id .success) = some ((), s₂)) (packet : Nat)
    (hlaw : out (config.socket.packet packet).tag.answer (responseBytes id .success)) :
    Contents out inn (config.answered packet reply s₂) := by
  obtain ⟨hsized, hloaded⟩ := loaded_sendFresh (writes_packResponse id .success) halloc h.sized
    (by rw [length_responseBytes]; decide) hpack (config.socket.packet packet).addr hlaw
  have hqueues := queues_sendFresh halloc hpack
    (netPacketAddr (s₂.packet reply) (config.socket.packet packet).addr)
    (config.socket.packet packet).tag.answer
  refine h.touch (hold.unheld_alloc halloc) (hsized.of_packets fun i => ?_) hqueues.sent ?_
    (fun _ => .inl) ?_ (fun _ => .inl) (fun _ => .inl)
  · exact congrArg NetPacket.bitstream packet_release
  · intro i hi
    exact packet_release.trans (hqueues.packet i hi)
  · intro i hi
    refine (hqueues.sending hi rfl rfl).imp_right fun hi => ⟨hi, ?_⟩
    show Loaded out ((netPacketRelease _ _).packet reply)
    rw [packet_release]
    exact hloaded

theorem Contents.read (h : Contents out inn config) (hold : Holding config []) {packet : Nat}
    {socket : NetSocket} {datagram : Datagram} (hlength : datagram.bytes.length ≤ kNetPacketMaxLen)
    (hread : netSocketReadEvent config.socket datagram = some (packet, socket))
    (hlaw : inn datagram.tag datagram.bytes) :
    Contents out inn (config.read packet socket datagram.tag) := by
  obtain ⟨s₁, halloc, rfl⟩ := netSocketReadEvent_eq hread
  have htouch := (touches_alloc halloc).trans
    (touches_setPacket s₁ packet ((config.socket.packet packet).store datagram))
  have hfit : 0 + datagram.bytes.length ≤ (config.socket.packet packet).bitstream.data.length := by
    rw [h.sized packet]
    omega
  have hsized : (s₁.setPacket packet ((config.socket.packet packet).store datagram)).Sized :=
    (h.sized.alloc halloc).setPacket ((length_overwrite hfit).trans (h.sized packet))
  refine h.touch (hold.unheld_alloc halloc) hsized htouch.sent htouch.packet (fun _ => .inl) ?_ ?_
    (fun _ => .inl)
  · intro i hi
    exact .inl (htouch.sending hi rfl rfl)
  · intro e he
    rcases List.mem_append.1 he with he | he
    · exact .inl he
    · rw [List.mem_singleton.1 he]
      refine .inr ⟨rfl, datagram.bytes, ?_, ?_⟩
      · show inn ((s₁.setPacket packet _).packet packet).tag _
        rw [packet_setPacket_self]
        exact hlaw
      · show ((s₁.setPacket packet _).packet packet).StandsAt 0 _
        rw [packet_setPacket_self]
        exact ⟨rfl, rfl, hasAt_overwrite hfit⟩

theorem Contents.retained (h : Contents out inn config) (hfree : config.Unheld p)
    {socket : NetSocket} (hsized : socket.Sized) (htouch : Touches p config.socket socket)
    {block : Block} {type : TransactionType} (hblock : block.opened = some (p, type))
    (hopened : Opened inn type (socket.packet p)) (receipt : Nat) :
    Contents out inn (((config.onSocket socket).retained p receipt block).released p receipt) := by
  have hsame : ∀ i, (((config.onSocket socket).retained p receipt block).released p
      receipt).socket.packet i = socket.packet i := fun i => packet_release.trans packet_retain
  refine h.touch hfree (hsized.of_packets fun i => congrArg _ (hsame i)) htouch.sent ?_
    (fun _ => .inl) ?_ (fun _ => .inl) ?_
  · intro i hi
    exact (hsame i).trans (htouch.packet i hi)
  · intro i hi
    exact .inl (htouch.sending hi rfl rfl)
  · intro e he
    replace he : e ∈ (config.transactionsDispatchQueue ++ [block]).filterMap Block.opened := he
    rw [List.filterMap_append, List.filterMap_cons_some hblock] at he
    rcases List.mem_append.1 he with he | he
    · exact .inl he
    · rw [List.mem_singleton.1 he, hsame]
      exact .inr ⟨rfl, hopened⟩

end Rules

/-! ## Steps -/

section Steps

variable {out inn : Tag → List UInt8 → Prop} {config config' : TransactionConfiguration}
  {party party' : Party} {action : TransactionAction}

/-- **A step keeps the contents**, if what it requests, reads, opens and answers obeys the laws. -/
theorem Move.contents (hmove : Move config action config') (h : Contents out inn config)
    (hold : Holding config [])
    (hrequested : ∀ {addr object packet socket socket'}, action = .request addr object →
      netPacketAlloc config.socket = some (packet, socket) →
      socket.onBitstream packet (packRequest config.cseq object) = some ((), socket') →
      config' = config.requested packet socket' addr object → Contents out inn config')
    (hdatagram : ∀ datagram, action = .read (.datagram datagram) → inn datagram.tag datagram.bytes)
    (hopened : ∀ {packet receipt id type socket block}, Stored inn (config.socket.packet packet) →
      config.socket.onBitstream packet (transactionProtocolUnpackHeader 0 0) =
        some ((.valid, id, type), socket) → receivedBlock packet receipt id type = some block →
      ∃ messageType, block.opened = some (packet, messageType) ∧
        Opened inn messageType (socket.packet packet))
    (hanswer : action = .block → ∀ packet id receipt rest,
      config.transactionsDispatchQueue = .request packet id receipt :: rest →
      out (config.socket.packet packet).tag.answer (responseBytes id .success)) :
    Contents out inn config' := by
  cases hmove with
  | idle hqueue => exact h
  | @dispatched _ block haction hplain =>
    have hblock : block.opened = none := by
      cases block <;> first | rfl | cases hplain
    refine h.same (fun _ => rfl) rfl (List.Subset.refl _) (fun _ => id) (List.Subset.refl _) ?_
    rw [opened_dispatch hblock]
    exact List.Subset.refl _
  | requested halloc hpack => exact hrequested rfl halloc hpack rfl
  | @sentOff t transaction addr hcall hlive =>
    refine h.sent_packet (mem_packets hlive) (touches_setPacket _ _ _) ?_ (tag_addr _ _ _ _) rfl
      (List.Subset.refl _) rfl (List.Subset.refl _)
    rw [packet_setPacket_self]
    rfl
  | @armed t transaction hcall hlive =>
    have hpackets := @packets_update config (config.armed t transaction) t transaction hlive _ rfl rfl
    exact h.same (fun _ => rfl) rfl hpackets.subset (fun _ => id) (List.Subset.refl _)
      (List.Subset.refl _)
  | unread hread hunread => exact h.unread hold hread hunread
  | @read datagram packet socket hlength hread =>
    exact h.read hold hlength hread (hdatagram datagram rfl)
  | @ignored i packet receipt socket hreceived hread =>
    have hheld : ((packet, receipt) :: (config.taken i).held).Perm config.held :=
      (pending_taken hreceived).append_right _
    have htaken : Holding (config.taken i) [packet] := hold.taken rfl rfl hheld
    refine Contents.released ?_ packet receipt
    rcases hread with rfl | ⟨header, hread⟩
    · exact h.taken i
    · have hsized := (h.received _ (List.mem_of_getElem? hreceived)).sized h.sized hread
      exact (h.taken i).onSocket htaken.unheld hsized (touches_onBitstream hread)
  | @retained i packet receipt id type socket block hreceived hread hblock =>
    have hheld : ((packet, receipt) :: (config.taken i).held).Perm config.held :=
      (pending_taken hreceived).append_right _
    have htaken : Holding (config.taken i) [packet] := hold.taken rfl rfl hheld
    have hstored := h.received _ (List.mem_of_getElem? hreceived)
    obtain ⟨messageType, htype, hstands⟩ := hopened hstored hread hblock
    exact (h.taken i).retained htaken.unheld (hstored.sized h.sized hread)
      (touches_onBitstream hread) htype hstands receipt
  | inserted hqueue hlive =>
    exact (h.popped hqueue).same (fun _ => rfl) rfl (List.Subset.refl _) (fun _ => id)
      (List.Subset.refl _) (List.Subset.refl _)
  | lost hqueue hsearch =>
    exact (h.popped hqueue).same (fun _ => rfl) rfl (List.Subset.refl _) (fun _ => id)
      (List.Subset.refl _) (List.Subset.refl _)
  | @responded packet id receipt t rest transaction result responseType socket hqueue hsearch hlive
      hread =>
    have htaken : Holding (config.popped rest) [packet] :=
      hold.taken rfl rfl (held_popped hqueue rfl)
    have hsized := (h.opened _ (mem_opened_head hqueue rfl)).sized h.sized (local_uint8.map _) hread
    have hread' : Contents out inn ((config.popped rest).onSocket socket) :=
      (h.popped hqueue).onSocket htaken.unheld hsized (touches_onBitstream hread)
    have hfreed : Contents out inn ((((config.popped rest).onSocket socket).note
        [.response t responseType]).completed t transaction (responseState responseType)) :=
      (hread'.note _).freed hlive rfl rfl rfl rfl
    exact hfreed.released packet receipt
  | @served packet id receipt reply rest s₁ s₂ s₃ result object hqueue halloc hpack hread =>
    have htaken : Holding (config.popped rest) [packet] :=
      hold.taken rfl rfl (held_popped hqueue rfl)
    have hanswered : Contents out inn (config.answered packet reply s₂) :=
      h.answered hold halloc hpack packet (hanswer rfl _ _ _ _ hqueue)
    have hholding := htaken.answered halloc hpack packet
    have hmem : (packet, TransactionType.request) ∈ (config.answered packet reply s₂).opened :=
      @mem_opened_head (config.answered packet reply s₂) _ _ _ _ hqueue rfl
    have hsized := (hanswered.opened _ hmem).sized hanswered.sized (local_request _) hread
    have hpopped : Contents out inn ((config.popped rest).answered packet reply s₂) :=
      hanswered.popped hqueue
    exact Contents.released (Contents.note (hpopped.onSocket hholding.unheld hsized
      (touches_onBitstream hread)) _) _ _
  | @retried id t rest transaction hqueue hsearch hlive hstate hretries =>
    have hpackets := @packets_update config ((config.popped rest).retried t transaction) t
      transaction hlive _ rfl rfl
    have hself : Touches transaction.packet config.socket config.socket :=
      ⟨fun _ _ => rfl, rfl, rfl, rfl, rfl⟩
    exact (h.popped hqueue).sent_packet (mem_packets hlive) hself rfl rfl rfl hpackets.subset rfl
      (List.Subset.refl _)
  | timedOut hqueue hsearch hlive hstate hretries =>
    exact (h.popped hqueue).freed hlive rfl rfl rfl rfl
  | switched hqueue hplain =>
    exact (h.popped hqueue).same (fun _ => rfl) rfl (List.Subset.refl _) (fun _ => id)
      (List.Subset.refl _) (List.Subset.refl _)
  | removedAll hqueue hremove =>
    refine transactionRemoveAll_inv (P := Contents out inn) ?_ ?_ hremove
    · intro c key t tr hc hsearch hlive
      exact hc.freed hlive rfl rfl rfl rfl
    · exact (h.popped hqueue).same (fun _ => rfl) rfl (List.Subset.refl _) (fun _ => id)
        (List.Subset.refl _) (List.Subset.refl _)
  | @timeoutFired t transaction hlive =>
    have hsame := @packets_update config (config.setTransaction t
      { transaction with timeoutValid := false }) t transaction hlive _ rfl rfl
    exact h.same (fun _ => rfl) rfl hsame.subset (fun _ => id) (List.Subset.refl _)
      (List.Subset.refl _)
  | socketBlock =>
    refine h.same (fun _ => packet_runBlock) sent_runBlock (List.Subset.refl _) ?_
      (List.Subset.refl _) (List.Subset.refl _)
    intro i hi
    by_contra hnot
    rcases hi with hi | hi
    · exact (netSocketRunBlock_queues (not_or.1 hnot)).1 hi
    · exact (netSocketRunBlock_queues (not_or.1 hnot)).2 hi
  | write => exact h.write

theorem transactionStep_contents (h : Contents out inn config) (hold : Holding config [])
    (hinn : Readable inn) (hstep : transactionStep config action = some config')
    (hother : action = .block → ∀ packet id receipt rest,
      config.transactionsDispatchQueue ≠ .request packet id receipt :: rest)
    (hrequest : ∀ addr object, action = .request addr object →
      .request config.heap.length object ∈ config'.log → object.Deliverable ∧
        out (.request config.agent config.heap.length) (requestBytes config.cseq object))
    (hdatagram : ∀ datagram, action = .read (.datagram datagram) → inn datagram.tag datagram.bytes) :
    Contents out inn config' := by
  refine (transactionStep_move hstep).contents h hold ?_ hdatagram ?_
    fun haction packet id receipt rest hqueue => absurd hqueue (hother haction _ _ _ _)
  · rintro addr object packet socket socket' haction halloc hpack rfl
    obtain ⟨hobject, hlaw⟩ := hrequest addr object haction
      (List.mem_append_right _ List.mem_cons_self)
    exact h.requested hold halloc hpack hobject addr hlaw
  · intro packet receipt id type socket block hstored hread hblock
    obtain ⟨_, type', heq, hopened⟩ := hstored.read hinn h.sized hread
    obtain rfl : type = type'.code := congrArg (fun header => header.2.2) heq
    exact ⟨type', receivedBlock_opened hblock, hopened⟩

theorem PartyMove.contents (hmove : PartyMove party action party')
    (h : Contents out inn party.config) (hold : Holding party.config []) (hinn : Readable inn)
    (hrequest : ∀ addr object, action = .request addr object →
      .request party.config.heap.length object ∈ party'.config.log → object.Deliverable ∧
        out (.request party.config.agent party.config.heap.length)
          (requestBytes party.config.cseq object))
    (hdatagram : ∀ datagram, action = .read (.datagram datagram) → inn datagram.tag datagram.bytes)
    (hanswer : ∀ packet id receipt rest,
      party.config.transactionsDispatchQueue = .request packet id receipt :: rest →
      party'.answering = some (party.config.socket.packet packet).tag →
      out (party.config.socket.packet packet).tag.answer (responseBytes id .success)) :
    Contents out inn party'.config := by
  cases hmove with
  | whole hother hstep =>
    exact transactionStep_contents h hold hinn hstep hother hrequest hdatagram
  | answered hqueue hidle halloc hpack =>
    exact h.answered hold halloc hpack _ (hanswer _ _ _ _ hqueue rfl)
  | @delivered packet id receipt rest tag result object socket hqueue hanswering hread =>
    have htaken : Holding (party.config.popped rest) [packet] :=
      hold.taken rfl rfl (held_popped hqueue rfl)
    have hsized := (h.opened _ (mem_opened_head hqueue rfl)).sized h.sized (local_request _) hread
    exact Contents.released (Contents.note ((h.popped hqueue).onSocket htaken.unheld hsized
      (touches_onBitstream hread)) _) _ _

end Steps

end UniversalNetwork
