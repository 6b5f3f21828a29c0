import UniversalNetwork.Bitstream.Codec
import UniversalNetwork.NetAddr
import UniversalNetwork.Pool
import UniversalNetwork.Protocol

/-!
# Packets and the socket (`net_packet.c`, `net_socket.c`)

A socket owns a pool of 64 packets, referred to by their node. Sending a packet retains it and
queues a block on the socket's serial dispatch queue; the block moves the packet to the pending
queue and resumes the write source, whose event hands all pending packets to `sendto` and releases
them. The read event stores a datagram in a fresh packet and hands it to the receive callback.

A packet carries a ghost `tag` that says which request its bytes are of, or answer. No operation
looks at it; a datagram takes the tag of the packet it was sent from, and a received packet that of
its datagram. `unheld` and `unclaimed` are ghost state too.
-/

namespace UniversalNetwork

open Lib

/-- The two agents that send each other requests. -/
inductive Agent
  | client
  | server
deriving DecidableEq, Repr

def Agent.peer : Agent → Agent
  | .client => .server
  | .server => .client

/-- Which transaction of which agent the bytes of a packet belong to. -/
inductive Tag
  | none
  | request (agent : Agent) (transaction : Nat)
  | response (agent : Agent) (transaction : Nat)
deriving DecidableEq, Repr

structure NetPacket where
  addr : NetAddr
  length : Nat
  bitstream : Bitstream
  tag : Tag

def netPacketInit (p : NetPacket) : NetPacket :=
  { p with bitstream := bitstreamCreate p.bitstream.data kNetPacketMaxLen, tag := .none }

/-- `net_packet_addr` -/
def netPacketAddr (p : NetPacket) (addr : NetAddr) : NetPacket := { p with addr }

def kNetPacketPoolCapacity : Nat := 64

/-- What is handed to `sendto`, or comes from `recvfrom` with the address of its sender. -/
structure Datagram where
  addr : NetAddr
  bytes : List UInt8
  tag : Tag

structure NetSocket where
  poolPackets : Pool NetPacket
  /-- Push blocks not yet run. -/
  socketDispatchQueue : List Nat
  pendingPackets : List Nat
  isSending : Bool
  /-- The packets handed to `sendto`, with what they were then. -/
  sent : List (Nat × Datagram)
  /-- The packets that were released although their retain count was 0. -/
  unheld : List Nat
  /-- The packets that read events took from the pool and neither gave back nor handed to anyone. -/
  unclaimed : List Nat

/-- The pool's memory comes from `malloc`. -/
def netSocketCreate (memory : Nat → Vector UInt8 kNetPacketMaxLen) : NetSocket where
  poolPackets := poolCreate kNetPacketPoolCapacity fun i =>
    ⟨.zeroed, 0, bitstreamCreate (memory i).toList kNetPacketMaxLen, .none⟩
  socketDispatchQueue := []
  pendingPackets := []
  isSending := false
  sent := []
  unheld := []
  unclaimed := []

def NetSocket.packet (s : NetSocket) (i : Nat) : NetPacket := s.poolPackets.objects i

def NetSocket.setPacket (s : NetSocket) (i : Nat) (p : NetPacket) : NetSocket :=
  { s with poolPackets := s.poolPackets.setObject i p }

/-- The packet after an operation on its bit stream. -/
def NetSocket.onBitstream {α : Type} (s : NetSocket) (i : Nat) (op : BitM α) :
    Option (α × NetSocket) := do
  let (a, bitstream) ← op (s.packet i).bitstream
  some (a, s.setPacket i { s.packet i with bitstream })

def NetSocket.setTag (s : NetSocket) (i : Nat) (tag : Tag) : NetSocket :=
  s.setPacket i { s.packet i with tag }

/-! ## Packets -/

def netPacketAlloc (s : NetSocket) : Option (Nat × NetSocket) :=
  (poolAlloc s.poolPackets).map fun (i, poolPackets) =>
    (i, { s with poolPackets }.setPacket i (netPacketInit (poolPackets.objects i)))

def netPacketRelease (s : NetSocket) (i : Nat) : NetSocket :=
  { s with
    poolPackets := poolRelease s.poolPackets i
    unheld := if s.poolPackets.retainCount i = 0 then s.unheld ++ [i] else s.unheld }

def netPacketRetain (s : NetSocket) (i : Nat) : NetSocket :=
  { s with poolPackets := poolRetain s.poolPackets i }

def netPacketFree (s : NetSocket) (i : Nat) : NetSocket :=
  { s with poolPackets := poolFree s.poolPackets i }

/-! ## Sending -/

/-- Empty packets are not queued up. -/
def netSocketSend (s : NetSocket) (i : Nat) : NetSocket :=
  let s := s.setPacket i { s.packet i with length := (s.packet i).bitstream.offset }
  if (s.packet i).length > 0 then
    let s := { s with poolPackets := poolRetain s.poolPackets i }
    { s with socketDispatchQueue := s.socketDispatchQueue ++ [i] }
  else s

/-- The next block of the socket's queue: `queue_push`, then `net_socket_resume_write`. -/
def netSocketRunBlock (s : NetSocket) : NetSocket :=
  match s.socketDispatchQueue with
  | [] => s
  | i :: rest => { s with
      socketDispatchQueue := rest, pendingPackets := s.pendingPackets ++ [i], isSending := true }

def NetPacket.datagram (p : NetPacket) : Datagram where
  addr := p.addr
  bytes := p.bitstream.data.take p.length
  tag := p.tag

/-- The loop of the write event over the pending packets. -/
def netSocketFlush (s : NetSocket) : List Nat → NetSocket
  | [] => s
  | i :: pending =>
    netSocketFlush (netPacketRelease
      { s with sent := s.sent ++ [(i, (s.packet i).datagram)] } i) pending

/-- The write event, which the source only delivers while it is resumed. -/
def netSocketWriteEvent (s : NetSocket) : NetSocket :=
  if s.isSending then
    { netSocketFlush { s with pendingPackets := [] } s.pendingPackets with isSending := false }
  else s

/-! ## Receiving -/

/-- What `recvfrom` returns. The number of bytes is that of the datagram, also when they do not
fit (`MSG_TRUNC`). -/
inductive RecvFrom
  | error
  | datagram (datagram : Datagram)

/-- What `recvfrom` writes: the address, and the bytes that fit. -/
def NetPacket.recvfrom (p : NetPacket) (datagram : Datagram) : NetPacket :=
  { p with
    addr := datagram.addr
    bitstream := { p.bitstream with
      data := overwrite p.bitstream.data 0 (datagram.bytes.take kNetPacketMaxLen) }
    tag := datagram.tag }

/-- What becomes of the packet of a read event. -/
inductive ReadOutcome
  /-- The pool is empty. -/
  | noPacket
  /-- The packet is with the pool again. -/
  | returned
  /-- The receive block or callback is dispatched with it. -/
  | dispatched (packet : Nat)
  /-- Nobody has it. -/
  | unclaimed (packet : Nat)
deriving DecidableEq

/-- The handler of the read event, on a socket that has a receive block or callback or has none
(`consumer`). -/
def netSocketReadPacket (s : NetSocket) (consumer : Bool) (recvfrom : RecvFrom) :
    ReadOutcome × NetSocket :=
  match netPacketAlloc s with
  | none => (.noPacket, s)
  | some (i, s) =>
    match recvfrom with
    | .error => (.returned, netPacketFree s i)
    | .datagram datagram =>
      let s := s.setPacket i ((s.packet i).recvfrom datagram)
      if datagram.bytes.length > 0 then
        if datagram.bytes.length ≤ kNetPacketMaxLen then
          let s := s.setPacket i { s.packet i with length := datagram.bytes.length }
          if consumer then (.dispatched i, s) else (.unclaimed i, s)
        else (.returned, netPacketFree s i)
      -- `read_bytes == 0` is neither of the two cases
      else (.unclaimed i, s)

/-- The read event: the packet that is dispatched, if there is one. -/
def netSocketRead (s : NetSocket) (consumer : Bool) (recvfrom : RecvFrom) :
    Option Nat × NetSocket :=
  match netSocketReadPacket s consumer recvfrom with
  | (.dispatched i, s) => (some i, s)
  | (.unclaimed i, s) => (none, { s with unclaimed := s.unclaimed ++ [i] })
  | (_, s) => (none, s)

/-- The read event for a datagram of 1 to 256 bytes that somebody consumes. -/
def netSocketReadEvent (s : NetSocket) (datagram : Datagram) : Option (Nat × NetSocket) :=
  (netPacketAlloc s).map fun (i, s) =>
    let p := s.packet i
    (i, s.setPacket i
      { addr := datagram.addr
        length := datagram.bytes.length
        bitstream := { p.bitstream with data := overwrite p.bitstream.data 0 datagram.bytes }
        tag := datagram.tag })

end UniversalNetwork
