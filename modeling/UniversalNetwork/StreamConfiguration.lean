import UniversalNetwork.Lib.Machine
import UniversalNetwork.NetSocket
import UniversalNetwork.Stream
import UniversalNetwork.StreamProtocol

/-!
# The streams of a socket (`stream.h`, `stream.c`)

A configuration holds the list of streams, the dispatch timer that updates them and the serial
queue on which streams are added, removed and timed out and received packets are handled. A stream
is referred to by its place in `memory`; streams that are removed from the list are never freed.

Each block of the queue is one step, and so is each call of `streamSuspend` and `streamResume`,
each tick of the timer and each event of the socket. `none` is an access outside an array, a failed
assert or a call of a callback that is not there.
-/

namespace UniversalNetwork

open Lib

def kStreamTimeout : ℚ := 5
def kStreamTimerUpdateInterval : ℚ := 1 / kStreamFlowMaxRate

/-- The blocks of `streamDispatchQueue`. -/
inductive StreamBlock
  | add (streamAddress : NetAddr)
  | remove (streamAddress : NetAddr)
  | timeout (stream : Nat)
  | receive (packet : Nat)
deriving DecidableEq

/-- The calls of the callbacks. -/
inductive StreamEvent
  | update
  | receive (address : NetAddr) (object : StreamObject)
  | timeout (address : NetAddr)
  | suspend
deriving DecidableEq

structure StreamConfiguration where
  socket : NetSocket
  memory : Nat → Stream
  streamCount : Nat
  streams : List Nat
  active : Bool
  /-- The suspend count of `streamDispatchTimer`. -/
  timerSuspendCount : Int
  streamDispatchQueue : List StreamBlock
  /-- Packets with which the receive callback was not called yet. -/
  received : List Nat
  /-- Whether `suspendCallback` is set. -/
  suspendCallback : Bool
  log : List StreamEvent

/-- A dispatch source is created suspended. The suspend callback may be left out; without one of the
other three, `streamSetup` fails. -/
def streamSetup (packets : Nat → Vector UInt8 kNetPacketMaxLen) (suspendCallback : Bool) :
    StreamConfiguration where
  socket := netSocketCreate packets
  memory := fun _ => streamCreate .zeroed
  streamCount := 0
  streams := []
  active := false
  timerSuspendCount := 1
  streamDispatchQueue := []
  received := []
  suspendCallback
  log := []

namespace StreamConfiguration

variable (config : StreamConfiguration)

def onSocket (socket : NetSocket) : StreamConfiguration := { config with socket }

def setStream (i : Nat) (stream : Stream) : StreamConfiguration :=
  { config with memory := Function.update config.memory i stream }

/-- `dispatch_async` to the stream queue. -/
def dispatch (block : StreamBlock) : StreamConfiguration :=
  { config with streamDispatchQueue := config.streamDispatchQueue ++ [block] }

def note (event : StreamEvent) : StreamConfiguration := { config with log := config.log ++ [event] }

/-- `list_find` for the first stream with this address. -/
def find (address : NetAddr) : Option Nat :=
  config.streams.find? fun i => netAddrIsEqual (config.memory i).address address

end StreamConfiguration

/-! ## Suspend and resume -/

/-- The suspend callback is called whether it is set or not. -/
def streamSuspend (config : StreamConfiguration) : Option StreamConfiguration :=
  if config.active then
    let config := { config with timerSuspendCount := config.timerSuspendCount + 1, active := false }
    if config.suspendCallback then some (config.note .suspend) else none
  else some config

/-- Only with a stream in the list. -/
def streamResume (config : StreamConfiguration) : StreamConfiguration :=
  if config.active = false ∧ config.streams ≠ [] then
    { config with active := true, timerSuspendCount := config.timerSuspendCount - 1 }
  else config

/-! ## Add and remove -/

def streamAdd (config : StreamConfiguration) (streamRemoteAddress : NetAddr) :
    StreamConfiguration :=
  config.dispatch (.add streamRemoteAddress)

def streamRemove (config : StreamConfiguration) (streamRemoteAddress : NetAddr) :
    StreamConfiguration :=
  config.dispatch (.remove streamRemoteAddress)

/-- `streamCreate`, then `list_add`. -/
def addStream (config : StreamConfiguration) (streamAddress : NetAddr) : StreamConfiguration :=
  { config.setStream config.streamCount (streamCreate streamAddress) with
    streamCount := config.streamCount + 1
    streams := config.streams ++ [config.streamCount] }

/-- The block of `streamAdd`. -/
def streamAddBlock (config : StreamConfiguration) (streamAddress : NetAddr) : StreamConfiguration :=
  match config.find streamAddress with
  | some _ => config
  | none => streamResume (addStream config streamAddress)

/-- The block of `streamRemove`. -/
def streamRemoveBlock (config : StreamConfiguration) (streamAddress : NetAddr) :
    Option StreamConfiguration :=
  match config.find streamAddress with
  | none => some config
  | some i =>
    let config := { config with streams := config.streams.erase i }
    if config.streams = [] then streamSuspend config else some config

/-! ## A stream -/

/-- What `streamUpdate` does to the stream, and whether it is time for an update. -/
def Stream.update (stream : Stream) : Option (Bool × Stream) := do
  let reliability ← streamReliabilityUpdate stream.reliability kStreamTimerUpdateInterval
  let flow := streamFlowUpdate stream.flow reliability.rtt kStreamTimerUpdateInterval
  let timeoutAccumulator := stream.timeoutAccumulator + kStreamTimerUpdateInterval
  let updateAccumulator := stream.updateAccumulator + kStreamTimerUpdateInterval
  let stream := { stream with reliability, flow, timeoutAccumulator }
  if updateAccumulator ≥ flow.updateInterval then
    some (true, { stream with updateAccumulator := 0 })
  else some (false, { stream with updateAccumulator })

/-- The timeout is dispatched at every tick after the time is over. -/
def streamUpdate (config : StreamConfiguration) (i : Nat) :
    Option (Bool × StreamConfiguration) := do
  let (shouldUpdate, stream) ← (config.memory i).update
  let config := config.setStream i stream
  if stream.timeoutAccumulator > kStreamTimeout then
    some (shouldUpdate, config.dispatch (.timeout i))
  else some (shouldUpdate, config)

/-- Nothing is sent when the pool is empty. -/
def streamSend (config : StreamConfiguration) (i : Nat) (object : StreamObject) :
    Option StreamConfiguration :=
  let stream := config.memory i
  if stream.state = .connected ∨ stream.state = .waiting then
    match netPacketAlloc config.socket with
    | none => some config
    | some (packet, socket) => do
      let ((), socket) ← socket.onBitstream packet (do
        streamProtocolPackHeader (.ofNat stream.reliability.sequence)
          (.ofNat stream.reliability.ack) (.ofBitVec stream.reliability.ackBits)
        streamProtocolPackData object)
      let socket := socket.setPacket packet (netPacketAddr (socket.packet packet) stream.address)
      let socket := netSocketSend socket packet
      let reliability ←
        streamReliabilityPacketSent stream.reliability (socket.packet packet).length
      some ((config.onSocket (netPacketRelease socket packet)).setStream i
        { stream with reliability })
  else some config

/-- The block of `streamTimeout`. -/
def streamTimeoutBlock (config : StreamConfiguration) (i : Nat) : StreamConfiguration :=
  let stream := config.memory i
  (config.setStream i { stream with state := .timeout }).note (.timeout stream.address)

/-! ## The timer -/

/-- The first `list_iterate` of the timer callback: every stream is updated, and `syncUpdate` is
whether all of them are due. -/
def updateStreams : List Nat → StreamConfiguration → Option (Bool × StreamConfiguration)
  | [], config => some (true, config)
  | i :: streams, config => do
    let (streamShouldUpdate, config) ← streamUpdate config i
    let (syncUpdate, config) ← updateStreams streams config
    some (streamShouldUpdate && syncUpdate, config)

/-- The second one. -/
def sendStreams (object : StreamObject) :
    List Nat → StreamConfiguration → Option StreamConfiguration
  | [], config => some config
  | i :: streams, config => do
    let config ← streamSend config i object
    sendStreams object streams config

/-- `updateObject` is the object as `updateCallback` leaves it. -/
def streamTimerCallback (config : StreamConfiguration) (updateObject : StreamObject) :
    Option StreamConfiguration :=
  if config.streams ≠ [] then do
    let (syncUpdate, config) ← updateStreams config.streams config
    if syncUpdate then sendStreams updateObject config.streams (config.note .update)
    else some config
  else some config

/-! ## Received packets -/

/-- The block of `streamSocketReceiveCallback`; `receiveObject` is what its stack holds. A packet of
an unknown sender adds a stream, by another block. -/
def streamReceiveBlock (config : StreamConfiguration) (packet : Nat) (receiveObject : StreamObject) :
    Option StreamConfiguration := do
  let ((result, sequence, ack, ackBitField), socket) ←
    config.socket.onBitstream packet (streamProtocolUnpackHeader 0 0 0)
  let config := config.onSocket socket
  let address := (socket.packet packet).addr
  if result = .valid then
    match config.find address with
    | none =>
      let config := streamAdd config address
      some (config.onSocket (netPacketRelease config.socket packet))
    | some i =>
      let ((_, object), socket) ← config.socket.onBitstream packet
        (streamProtocolUnpackData (streamObjectSetup receiveObject))
      let (stream, accepted) ←
        streamReceive (config.memory i) sequence.toNat ack.toNat ackBitField.toBitVec
      let config := (config.onSocket (netPacketRelease socket packet)).setStream i stream
      if accepted then some (config.note (.receive stream.address object)) else some config
  else some (config.onSocket (netPacketRelease config.socket packet))

/-! ## Steps -/

inductive StreamAction
  | add (address : NetAddr)
  | remove (address : NetAddr)
  | suspend
  | resume
  /-- With the object the application provides. -/
  | tick (updateObject : StreamObject)
  /-- The next block of `streamDispatchQueue`, on a stack that holds this. -/
  | block (stack : StreamObject)
  /-- The read event, with what `recvfrom` returns. -/
  | read (recvfrom : RecvFrom)
  /-- The receive callback runs for one of the packets read. -/
  | callback (i : Nat)
  | socketBlock
  | write

def runStreamBlock (config : StreamConfiguration) (stack : StreamObject) :
    StreamBlock → Option StreamConfiguration
  | .add address => some (streamAddBlock config address)
  | .remove address => streamRemoveBlock config address
  | .timeout i => some (streamTimeoutBlock config i)
  | .receive packet => streamReceiveBlock config packet stack

def streamStep (config : StreamConfiguration) : StreamAction → Option StreamConfiguration
  | .add address => some (streamAdd config address)
  | .remove address => some (streamRemove config address)
  | .suspend => streamSuspend config
  | .resume => some (streamResume config)
  | .tick updateObject => streamTimerCallback config updateObject
  | .block stack =>
    match config.streamDispatchQueue with
    | [] => some config
    | block :: rest => runStreamBlock { config with streamDispatchQueue := rest } stack block
  | .read recvfrom =>
    match netSocketRead config.socket true recvfrom with
    | (none, socket) => some (config.onSocket socket)
    | (some packet, socket) =>
      some { config.onSocket socket with received := config.received ++ [packet] }
  | .callback i =>
    match config.received[i]? with
    | none => some config
    | some packet =>
      some ({ config with received := config.received.eraseIdx i }.dispatch (.receive packet))
  | .socketBlock => some (config.onSocket (netSocketRunBlock config.socket))
  | .write => some (config.onSocket (netSocketWriteEvent config.socket))

end UniversalNetwork
