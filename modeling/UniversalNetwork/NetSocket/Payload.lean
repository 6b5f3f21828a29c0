import UniversalNetwork.NetSocket.Ownership

/-!
# What packets carry

`s.Sized`: every packet of the pool has its 256 bytes. On a packet of a sized socket a writer that
fits writes its bytes (`onBitstream_of_writes`), and a reader reads the bytes that are there
(`onBitstream_of_reads`).
-/

namespace UniversalNetwork

open Lib

def NetSocket.Sized (s : NetSocket) : Prop :=
  ∀ i, (s.packet i).bitstream.data.length = kNetPacketMaxLen

theorem netSocketCreate_sized (memory : Nat → Vector UInt8 kNetPacketMaxLen) :
    (netSocketCreate memory).Sized :=
  fun i => (memory i).length_toList

section Rules

variable {s s' : NetSocket} {i : Nat} {p : NetPacket} {bs : List UInt8}

theorem NetSocket.Sized.of_packets (h : s.Sized)
    (hp : ∀ j, (s'.packet j).bitstream = (s.packet j).bitstream) : s'.Sized :=
  fun j => by
    rw [hp]
    exact h j

theorem NetSocket.Sized.setPacket (h : s.Sized)
    (hp : p.bitstream.data.length = kNetPacketMaxLen) : (s.setPacket i p).Sized := by
  intro j
  rcases Decidable.em (j = i) with rfl | hj
  · rw [packet_setPacket_self]
    exact hp
  · rw [(touches_setPacket s i p).packet j hj]
    exact h j

theorem NetSocket.Sized.alloc (h : s.Sized) (ha : netPacketAlloc s = some (i, s')) : s'.Sized := by
  intro j
  rcases Decidable.em (j = i) with rfl | hj
  · rw [packet_alloc ha]
    exact h j
  · rw [(touches_alloc ha).packet j hj]
    exact h j

theorem NetSocket.Sized.send (h : s.Sized) : (netSocketSend s i).Sized := by
  intro j
  rcases Decidable.em (j = i) with rfl | hj
  · rw [packet_send_self]
    exact h j
  · rw [(queues_send s i).packet j hj]
    exact h j

/-- The address and the tag are set, and the packet is sent. -/
theorem NetSocket.Sized.sendTo (h : s.Sized) (addr : NetAddr) (tag : Tag) :
    (netSocketSend ((s.setPacket i (netPacketAddr (s.packet i) addr)).setTag i tag) i).Sized := by
  have haddr : (s.setPacket i (netPacketAddr (s.packet i) addr)).Sized := h.setPacket (h i)
  have htag : ((s.setPacket i (netPacketAddr (s.packet i) addr)).setTag i tag).Sized :=
    haddr.setPacket (haddr i)
  exact htag.send

/-- The read event stores no more than the 256 bytes. -/
theorem NetSocket.Sized.read (h : s.Sized) {consumer : Bool} {recvfrom : RecvFrom}
    {packet : Option Nat} (hread : netSocketRead s consumer recvfrom = (packet, s')) : s'.Sized := by
  have hfree : ∀ {s₁ : NetSocket} {i : Nat}, s₁.Sized → (netPacketFree s₁ i).Sized :=
    fun hs => hs.of_packets fun _ => congrArg NetPacket.bitstream packet_free
  unfold netSocketRead netSocketReadPacket at hread
  cases ha : netPacketAlloc s with
  | none =>
    rw [ha] at hread
    cases hread
    exact h
  | some alloc =>
    obtain ⟨i, s₁⟩ := alloc
    rw [ha] at hread
    have hs₁ := h.alloc ha
    cases recvfrom with
    | error =>
      cases hread
      exact hfree hs₁
    | datagram datagram =>
      dsimp only at hread
      have hstored : (s₁.setPacket i ((s₁.packet i).recvfrom datagram)).Sized := by
        refine hs₁.setPacket ((length_overwrite ?_).trans (hs₁ i))
        rw [hs₁ i, List.length_take]
        omega
      rcases Decidable.em (datagram.bytes.length > 0) with hpos | hzero
      · rw [if_pos hpos] at hread
        rcases Decidable.em (datagram.bytes.length ≤ kNetPacketMaxLen) with hfits | hlong
        · rw [if_pos hfits] at hread
          cases consumer <;> cases hread <;> exact hstored.setPacket (hstored i)
        · rw [if_neg hlong] at hread
          cases hread
          exact hfree hstored
      · rw [if_neg hzero] at hread
        cases hread
        exact hstored

/-! ## Codecs on packets -/

theorem sized_create {data : List UInt8} (h : data.length = kNetPacketMaxLen) :
    (bitstreamCreate data kNetPacketMaxLen).Sized :=
  ⟨h.symm, (by decide : kNetPacketMaxLen < 2 ^ 64)⟩

/-- The bit stream of a packet after `bs` was written at its start. -/
def NetPacket.written (p : NetPacket) (bs : List UInt8) : Bitstream :=
  (bitstreamCreate p.bitstream.data kNetPacketMaxLen).emit bs

theorem length_written (hp : p.bitstream.data.length = kNetPacketMaxLen)
    (hfit : bs.length ≤ kNetPacketMaxLen) :
    (p.written bs).data.length = kNetPacketMaxLen := by
  rw [NetPacket.written, Bitstream.emit]
  refine (length_overwrite ?_).trans hp
  show 0 + _ ≤ p.bitstream.data.length
  omega

theorem hasAt_written (hp : p.bitstream.data.length = kNetPacketMaxLen)
    (hfit : bs.length ≤ kNetPacketMaxLen) : HasAt (p.written bs).data 0 bs :=
  hasAt_overwrite (show 0 + bs.length ≤ p.bitstream.data.length by omega)

/-- A writer on a fresh packet. -/
theorem onBitstream_of_writes {op : BitM Unit} (hw : Writes op bs ())
    (ha : netPacketAlloc s = some (i, s')) (hsized : s.Sized) (hfit : bs.length ≤ kNetPacketMaxLen) :
    ∃ s'', s'.onBitstream i op = some ((), s'') ∧ s''.Sized ∧
      (s''.packet i).bitstream = (s.packet i).written bs := by
  have hop := hw _ (sized_create (hsized i)) (show 0 + bs.length ≤ kNetPacketMaxLen by omega)
  have hfresh : (s'.packet i).bitstream =
      bitstreamCreate (s.packet i).bitstream.data kNetPacketMaxLen := by
    rw [packet_alloc ha]
    rfl
  refine ⟨s'.setPacket i { s'.packet i with bitstream := (s.packet i).written bs }, ?_, ?_, ?_⟩
  · rw [NetSocket.onBitstream, hfresh, hop]
    rfl
  · exact (hsized.alloc ha).setPacket (length_written (hsized i) hfit)
  · rw [packet_setPacket_self]

/-- A reader on a packet that carries the bytes. -/
theorem onBitstream_of_reads {α : Type} {op : BitM α} {a : α} (hr : Reads op bs a)
    (hsized : s.Sized) (hbound : (s.packet i).bitstream.bound = kNetPacketMaxLen)
    (hoffset : (s.packet i).bitstream.offset ≤ kNetPacketMaxLen)
    (hat : HasAt (s.packet i).bitstream.data (s.packet i).bitstream.offset bs) :
    ∃ s', s.onBitstream i op = some (a, s') ∧ s'.Sized ∧
      (s'.packet i).bitstream = (s.packet i).bitstream.advance bs.length := by
  have hs : (s.packet i).bitstream.Sized :=
    ⟨hbound.trans (hsized i).symm, hbound ▸ (by decide : kNetPacketMaxLen < 2 ^ 64)⟩
  refine ⟨s.setPacket i { s.packet i with
    bitstream := (s.packet i).bitstream.advance bs.length }, ?_, ?_, ?_⟩
  · rw [NetSocket.onBitstream, hr _ hs (hbound ▸ hoffset) hat]
    rfl
  · exact hsized.setPacket (hsized i)
  · rw [packet_setPacket_self]

end Rules

end UniversalNetwork
