import UniversalNetwork.Lib.Machine
import UniversalNetwork.NetSocket
import UniversalNetwork.StunProtocol

/-!
# Resolving the mapped address (`stun.h`, `stun.c`, `stun_tests.h`, `stun_tests.c`)

One call of `stunResolve` runs five tests one after the other on a serial queue. A test either
completes at once or installs its receive block on the socket, arms its timeout and sends a request;
its receive block and its timeout put blocks on the queue, and so does its completion, which starts
the next test.

Each block of the queue is one step, and so is each event of the socket and of a timer. The handler
of a timer takes two: it runs the timeout block, and then marks the timeout as invalid, whatever
that block has led to meanwhile. Packets go to the receive block that is set on the socket when their
block runs (`deliver`), or to that of any test (`receive`), and a timer can fire late. `none` is an
access outside an array, through a null pointer or to a block that was released. The references to
the dispatch sources of the timers are not counted. The name resolution and the local address are
given, the transaction ids are those the generator returns.
-/

namespace UniversalNetwork

open Lib

/-! ## Results -/

inductive StunNatBehavior
  | unknownBehavior
  | directMapping
  | endpointIndependentMapping
  | addressDependentMapping
  | addressAndPortDependentMapping
deriving DecidableEq, Repr

inductive StunNatFiltering
  | unknownFiltering
  | directConnectionFiltering
  | endpointIndependentFiltering
  | addressDependentFiltering
  | addressAndPortDependentFiltering
deriving DecidableEq, Repr

structure StunResults where
  didBindingTestSuccess : Bool
  localAddr : NetAddr
  mappedAddr : NetAddr
  isMappingDirect : Bool
  hasOtherServerAddress : Bool
  otherServerPrimaryHostAddr : NetAddr
  otherServerPrimaryPortAddr : NetAddr
  otherServerAddr : NetAddr
  didBehaviorTestSuccess : Bool
  natBehavior : StunNatBehavior
  mappedOtherServerPrimaryPortAddr : NetAddr
  mappedOtherServerAddr : NetAddr
  didFilteringTestSuccess : Bool
  natFiltering : StunNatFiltering
deriving DecidableEq, Repr

/-- The struct after `memset`. -/
def StunResults.zeroed : StunResults where
  didBindingTestSuccess := false
  localAddr := .zeroed
  mappedAddr := .zeroed
  isMappingDirect := false
  hasOtherServerAddress := false
  otherServerPrimaryHostAddr := .zeroed
  otherServerPrimaryPortAddr := .zeroed
  otherServerAddr := .zeroed
  didBehaviorTestSuccess := false
  natBehavior := .unknownBehavior
  mappedOtherServerPrimaryPortAddr := .zeroed
  mappedOtherServerAddr := .zeroed
  didFilteringTestSuccess := false
  natFiltering := .unknownFiltering

/-! ## State -/

/-- The five tests of `struct StunStruct`. -/
inductive StunTestId
  | bindingTest1
  | behaviorTest1
  | behaviorTest2
  | filteringTest1
  | filteringTest2
deriving DecidableEq, Repr

structure StunTest where
  isCompleted : Bool
  transactionId : StunTransactionId
  packet : Option Nat
  /-- Whether the blocks are set. -/
  receiveBlock : Bool
  timeoutBlock : Bool
  retries : Nat
  timeoutValid : Bool
deriving DecidableEq, Repr

/-- The struct after `memset`. -/
def StunTest.zeroed : StunTest := ⟨false, ⟨Vector.replicate _ 0⟩, none, false, false, 0, false⟩

/-- A receive block of a socket: one of the application's, or that of a test. -/
inductive ReceiveBlock
  | application (block : Nat)
  | test (test : StunTestId)
deriving DecidableEq, Repr

/-- `net_socket_info_s`, less the socket. -/
structure NetSocketInfo where
  receiveCallback : Option Nat
  receiveCallbackContext : Nat
  receiveBlock : Option ReceiveBlock
deriving DecidableEq, Repr

/-- The blocks of `stunDispatchQueue`. -/
inductive StunBlock
  | resolve
  | runNextTest (previousTest : StunTestId)
  | receive (test : StunTestId) (packet : Nat)
  | timeout (test : StunTestId)
deriving DecidableEq, Repr

inductive StunEvent
  | start (test : StunTestId)
  | send (test : StunTestId) (destAddr : NetAddr)
  /-- `testDidComplete` -/
  | complete (test : StunTestId)
  /-- `stunTestForward` -/
  | forward (packet : Nat)
  | stunDidResolve
  | stunDidFailResolve
deriving DecidableEq, Repr

structure Stun where
  didResolve : Bool
  results : StunResults
  maxRetries : Nat
  /-- `config.socket_info` -/
  socketInfo : NetSocketInfo
  primaryServerAddr : NetAddr
  tests : StunTestId → StunTest
  stunDispatchQueue : List StunBlock
  socket : NetSocket
  /-- The callbacks that are set on the socket. -/
  receiver : NetSocketInfo
  /-- `net_socket_local_addr` of the socket. -/
  localAddr : NetAddr
  /-- What `net_addr_resolve` gives, unless it fails. -/
  resolution : Option NetAddr
  /-- Packets with which the receive block of the socket is to be called. -/
  received : List Nat
  /-- Packets that the application was handed and has not released. -/
  application : List Nat
  log : List StunEvent

/-- `stunCreate` on a socket of the application, then `stunResolve`. The tests are not read before
they start. -/
def stunResolve (packets : Nat → Vector UInt8 kNetPacketMaxLen) (receiveCallback : Option Nat)
    (receiveCallbackContext : Nat) (receiveBlock : Option Nat) (localAddr : NetAddr)
    (resolution : Option NetAddr) (maxRetries : Nat) : Stun where
  didResolve := false
  results := .zeroed
  maxRetries
  socketInfo := ⟨none, 0, none⟩
  primaryServerAddr := .zeroed
  tests := fun _ => .zeroed
  stunDispatchQueue := [.resolve]
  socket := netSocketCreate packets
  receiver := ⟨receiveCallback, receiveCallbackContext, receiveBlock.map .application⟩
  localAddr
  resolution
  received := []
  application := []
  log := []

namespace Stun

variable (stun : Stun)

@[simps]
def onSocket (socket : NetSocket) : Stun := { stun with socket }

@[simps]
def setTest (t : StunTestId) (test : StunTest) : Stun :=
  { stun with tests := Function.update stun.tests t test }

@[simps]
def setResults (results : StunResults) : Stun := { stun with results }

/-- `dispatch_async` to the stun queue. -/
@[simps]
def dispatch (block : StunBlock) : Stun :=
  { stun with stunDispatchQueue := stun.stunDispatchQueue ++ [block] }

@[simps]
def note (event : StunEvent) : Stun := { stun with log := stun.log ++ [event] }

/-- Whether the read event hands a packet to somebody. -/
def consumer : Bool := stun.receiver.receiveBlock.isSome || stun.receiver.receiveCallback.isSome

/-- `net_socket_set_receive_block` -/
@[simps]
def setReceiveBlock (receiveBlock : ReceiveBlock) : Stun :=
  { stun with receiver := { stun.receiver with receiveBlock := some receiveBlock } }

end Stun

/-! ## Requests -/

/-- Without a packet the request is written through a null pointer. -/
def stunTestSetup (stun : Stun) (t : StunTestId) (destAddr : NetAddr)
    (transactionId : StunTransactionId) : Option Stun := do
  let (packet, socket) ← netPacketAlloc stun.socket
  let socket := socket.setPacket packet (netPacketAddr (socket.packet packet) destAddr)
  some ((stun.onSocket socket).setTest t
    { stun.tests t with packet := some packet, transactionId })

/-- `net_socket_send` of the test's packet. -/
def stunTransmit (stun : Stun) (t : StunTestId) : Option Stun := do
  let packet ← (stun.tests t).packet
  let destAddr := (stun.socket.packet packet).addr
  some ((stun.onSocket (netSocketSend stun.socket packet)).note (.send t destAddr))

/-- With the receive block that the caller has set. -/
def stunTestSend (stun : Stun) (t : StunTestId) : Option Stun :=
  stunTransmit ((stun.setTest t { stun.tests t with
    receiveBlock := true, timeoutBlock := true, timeoutValid := true }).setReceiveBlock (.test t)) t

/-- The common part of the tests that send: setup, a request that `pack` writes, send. -/
def stunTestRequest (stun : Stun) (t : StunTestId) (destAddr : NetAddr)
    (transactionId : StunTransactionId) (pack : StunTransactionId → BitM Unit) : Option Stun := do
  let stun ← stunTestSetup stun t destAddr transactionId
  let packet ← (stun.tests t).packet
  let ((), socket) ← stun.socket.onBitstream packet (pack transactionId)
  stunTestSend (stun.onSocket socket) t

/-! ## Completion -/

def stunTestDestroyTimeout (stun : Stun) (t : StunTestId) : Stun :=
  stun.setTest t { stun.tests t with timeoutValid := false }

def stunTestRelease (stun : Stun) (t : StunTestId) : Stun :=
  let stun := stunTestDestroyTimeout stun t
  match (stun.tests t).packet with
  | none => stun
  | some packet => stun.onSocket (netPacketRelease stun.socket packet)

/-- `testDidComplete` is `stunRunNextTest`, which dispatches its block. -/
def stunTestSetComplete (stun : Stun) (t : StunTestId) : Stun :=
  let stun := stunTestRelease stun t
  let stun := stun.setTest t { stun.tests t with isCompleted := true }
  (stun.note (.complete t)).dispatch (.runNextTest t)

/-- `*testSuccessCheck = false`: the behavior tests are given the flag of the binding test. -/
def testSuccessCheck (results : StunResults) : StunTestId → StunResults
  | .bindingTest1 | .behaviorTest1 | .behaviorTest2 =>
    { results with didBindingTestSuccess := false }
  | .filteringTest1 | .filteringTest2 => { results with didFilteringTestSuccess := false }

def stunTestRetryOrFail (stun : Stun) (t : StunTestId) : Option Stun :=
  if (stun.tests t).isCompleted = false then
    let stun := stunTestDestroyTimeout stun t
    if (stun.tests t).retries < stun.maxRetries then
      stunTransmit (stun.setTest t { stun.tests t with
        retries := (stun.tests t).retries + 1, timeoutValid := true }) t
    else some (stunTestSetComplete (stun.setResults (testSuccessCheck stun.results t)) t)
  else some stun

/-! ## Starting the tests -/

/-- `memset` of the test. -/
def stunTestReset (stun : Stun) (t : StunTestId) : Stun :=
  (stun.note (.start t)).setTest t .zeroed

def stunTestStartBasicBinding (stun : Stun) (transactionId : StunTransactionId) : Option Stun :=
  let stun := stunTestReset stun .bindingTest1
  stunTestRequest (stun.setResults { stun.results with localAddr := stun.localAddr }) .bindingTest1
    stun.primaryServerAddr transactionId stunProtocolPackBindingRequest

def stunTestStartBehavior1 (stun : Stun) (transactionId : StunTransactionId) : Option Stun :=
  let stun := stunTestReset stun .behaviorTest1
  if stun.results.didBindingTestSuccess ∧ stun.results.isMappingDirect then
    some (stunTestSetComplete (stun.setResults { stun.results with
      natBehavior := .directMapping, didBehaviorTestSuccess := true }) .behaviorTest1)
  else if stun.results.hasOtherServerAddress = false then
    some (stunTestSetComplete (stun.setResults { stun.results with
      didBehaviorTestSuccess := false }) .behaviorTest1)
  else stunTestRequest stun .behaviorTest1 stun.results.otherServerPrimaryPortAddr transactionId
    stunProtocolPackBindingRequest

def stunTestStartBehavior2 (stun : Stun) (transactionId : StunTransactionId) : Option Stun :=
  let stun := stunTestReset stun .behaviorTest2
  if stun.results.didBehaviorTestSuccess then
    some (stunTestSetComplete stun .behaviorTest2)
  else if netAddrIsValid stun.results.mappedOtherServerPrimaryPortAddr = false then
    some (stunTestSetComplete (stun.setResults { stun.results with
      didBehaviorTestSuccess := false }) .behaviorTest2)
  else stunTestRequest stun .behaviorTest2 stun.results.otherServerAddr transactionId
    stunProtocolPackBindingRequest

def stunTestStartFiltering1 (stun : Stun) (transactionId : StunTransactionId) : Option Stun :=
  let stun := stunTestReset stun .filteringTest1
  if stun.results.didBindingTestSuccess ∧ stun.results.isMappingDirect then
    some (stunTestSetComplete (stun.setResults { stun.results with
      natFiltering := .endpointIndependentFiltering, didFilteringTestSuccess := true })
      .filteringTest1)
  else if stun.results.hasOtherServerAddress = false then
    some (stunTestSetComplete (stun.setResults { stun.results with
      didFilteringTestSuccess := false }) .filteringTest1)
  else stunTestRequest stun .filteringTest1 stun.primaryServerAddr transactionId
    (stunProtocolPackBindingChangeRequest · true true)

def stunTestStartFiltering2 (stun : Stun) (transactionId : StunTransactionId) : Option Stun :=
  let stun := stunTestReset stun .filteringTest2
  if stun.results.didFilteringTestSuccess then
    some (stunTestSetComplete stun .filteringTest2)
  else if stun.results.hasOtherServerAddress = false then
    some (stunTestSetComplete (stun.setResults { stun.results with
      didFilteringTestSuccess := false }) .filteringTest2)
  else stunTestRequest stun .filteringTest2 stun.primaryServerAddr transactionId
    (stunProtocolPackBindingChangeRequest · false true)

/-! ## Responses -/

/-- The mapped address of a response, the XOR one before the plain one, else what was there. -/
def StunBindingResponse.mapped (bindingResponse : StunBindingResponse) (addr : NetAddr) : NetAddr :=
  let addr := if bindingResponse.hasMappedAddress then bindingResponse.mappedAddressAddr else addr
  if bindingResponse.hasXorMappedAddress then bindingResponse.xorMappedAddressAddr else addr

def bindingResults (primaryServerAddr : NetAddr) (bindingResponse : StunBindingResponse)
    (results : StunResults) : StunResults :=
  let results := { results with mappedAddr := bindingResponse.mapped results.mappedAddr }
  let results := if bindingResponse.hasAlternateServer then
      { results with
        hasOtherServerAddress := true
        otherServerAddr := bindingResponse.alternateServerAddr
        otherServerPrimaryHostAddr := netAddrSet primaryServerAddr.sAddr
          bindingResponse.alternateServerAddr.sinPort false
        otherServerPrimaryPortAddr := netAddrSet bindingResponse.alternateServerAddr.sAddr
          primaryServerAddr.sinPort false }
    else results
  let results := if netAddrIsEqual results.mappedAddr results.localAddr then
      { results with isMappingDirect := true }
    else results
  { results with didBindingTestSuccess := true }

def behavior1Results (bindingResponse : StunBindingResponse) (results : StunResults) :
    StunResults :=
  let addr := bindingResponse.mapped results.mappedOtherServerPrimaryPortAddr
  let results := { results with mappedOtherServerPrimaryPortAddr := addr }
  if bindingResponse.hasMappedAddress ∨ bindingResponse.hasXorMappedAddress then
    if netAddrIsEqual results.mappedOtherServerPrimaryPortAddr results.mappedAddr then
      { results with
        didBehaviorTestSuccess := true, natBehavior := .endpointIndependentMapping }
    else results
  else results

def behavior2Results (bindingResponse : StunBindingResponse) (results : StunResults) :
    StunResults :=
  let results := { results with
    mappedOtherServerAddr := bindingResponse.mapped results.mappedOtherServerAddr }
  if bindingResponse.hasMappedAddress ∨ bindingResponse.hasXorMappedAddress then
    if netAddrIsEqual results.mappedOtherServerAddr results.mappedAddr then
      { results with natBehavior := .addressDependentMapping, didBehaviorTestSuccess := true }
    else
      { results with
        natBehavior := .addressAndPortDependentMapping, didBehaviorTestSuccess := true }
  else results

def filtering1Results (packetAddr : NetAddr) (results : StunResults) : StunResults :=
  if netAddrIsEqual results.otherServerAddr packetAddr then
    { results with
      didFilteringTestSuccess := true, natFiltering := .endpointIndependentFiltering }
  else results

def filtering2Results (packetAddr : NetAddr) (results : StunResults) : StunResults :=
  if netAddrIsEqual results.otherServerAddr packetAddr then
    { results with didFilteringTestSuccess := true, natFiltering := .addressDependentFiltering }
  else results

/-- What the receive block of the test makes of a response with its transaction id. -/
def responseResults (primaryServerAddr packetAddr : NetAddr)
    (bindingResponse : StunBindingResponse) (results : StunResults) : StunTestId → StunResults
  | .bindingTest1 => bindingResults primaryServerAddr bindingResponse results
  | .behaviorTest1 => behavior1Results bindingResponse results
  | .behaviorTest2 => behavior2Results bindingResponse results
  | .filteringTest1 => filtering1Results packetAddr results
  | .filteringTest2 => filtering2Results packetAddr results

/-- What `stunProtocolUnpackBindingResponse` makes of a packet; it sets all of the response. -/
def unpackBindingResponse (socket : NetSocket) (packet : Nat) :
    Option ((StunResult × StunTransactionId × StunBindingResponse) × NetSocket) :=
  socket.onBitstream packet (stunProtocolUnpackBindingResponse ⟨Vector.replicate _ 0⟩ .zeroed)

/-- `bitstream_reset`, then the consumer that the socket had before. -/
def stunTestForward (stun : Stun) (packet : Nat) : Stun :=
  let p := stun.socket.packet packet
  (stun.onSocket (stun.socket.setPacket packet
    { p with bitstream := bitstreamReset p.bitstream })).note (.forward packet)

/-- The timeout of a running test is destroyed before the transaction ids are compared. -/
def stunReceiveBlock (stun : Stun) (t : StunTestId) (packet : Nat) : Option Stun :=
  if (stun.tests t).isCompleted = false then do
    let ((result, transactionId, bindingResponse), socket) ←
      unpackBindingResponse stun.socket packet
    let stun := stun.onSocket socket
    let stun :=
      if result = .valid then
        let stun := stunTestDestroyTimeout stun t
        if (stun.tests t).transactionId = transactionId then
          stunTestSetComplete (stun.setResults (responseResults stun.primaryServerAddr
            (socket.packet packet).addr bindingResponse stun.results t)) t
        else stun
      else stunTestForward stun packet
    some (stun.onSocket (netPacketRelease stun.socket packet))
  else some (stun.onSocket (netPacketRelease stun.socket packet))

/-! ## The sequence -/

def stunResolveBlock (stun : Stun) (transactionId : StunTransactionId) : Option Stun :=
  match stun.resolution with
  | none => some (stun.note .stunDidFailResolve)
  | some primaryServerAddr =>
    stunTestStartBasicBinding { stun with primaryServerAddr, socketInfo := stun.receiver }
      transactionId

def stunRunNextTest (stun : Stun) (transactionId : StunTransactionId) : StunTestId → Option Stun
  | .bindingTest1 => stunTestStartBehavior1 stun transactionId
  | .behaviorTest1 => stunTestStartBehavior2 stun transactionId
  | .behaviorTest2 => stunTestStartFiltering1 stun transactionId
  | .filteringTest1 => stunTestStartFiltering2 stun transactionId
  | .filteringTest2 =>
    if stun.results.didBindingTestSuccess then
      some ({ stun with receiver := stun.socketInfo, didResolve := true }.note .stunDidResolve)
    else some (stun.note .stunDidFailResolve)

/-! ## Steps -/

inductive StunAction
  /-- The next block of `stunDispatchQueue`, with the id it gets if it starts a test. -/
  | block (transactionId : StunTransactionId)
  | read (recvfrom : RecvFrom)
  /-- A block of the read event calls the receive block of the socket. -/
  | deliver (i : Nat)
  /-- One of the packets read goes to the receive block of a test, whichever is set. -/
  | receive (test : StunTestId) (i : Nat)
  /-- The application releases a packet. -/
  | release (i : Nat)
  /-- The timer of a test fires: the handler runs the timeout block. -/
  | timeout (test : StunTestId)
  /-- The handler marks the timeout as invalid. -/
  | timeoutFired (test : StunTestId)
  | socketBlock
  | write

def runStunBlock (stun : Stun) (transactionId : StunTransactionId) : StunBlock → Option Stun
  | .resolve => stunResolveBlock stun transactionId
  | .runNextTest previousTest => stunRunNextTest stun transactionId previousTest
  | .receive t packet => stunReceiveBlock stun t packet
  | .timeout t => stunTestRetryOrFail stun t

/-- The read event. Without a receive block the callback of the application gets the packet. -/
def stunRead (stun : Stun) (recvfrom : RecvFrom) : Stun :=
  match netSocketRead stun.socket stun.consumer recvfrom with
  | (none, socket) => stun.onSocket socket
  | (some packet, socket) =>
    if stun.receiver.receiveBlock.isSome then
      { stun.onSocket socket with received := stun.received ++ [packet] }
    else { stun.onSocket socket with application := stun.application ++ [packet] }

/-- `s->receiveBlock(packet)`: the block may be gone, and a test that completes releases its own. -/
def stunDeliver (stun : Stun) (packet : Nat) : Option Stun :=
  match stun.receiver.receiveBlock with
  | none => none
  | some (.application _) => some { stun with application := stun.application ++ [packet] }
  | some (.test t) =>
    if (stun.tests t).receiveBlock ∧ (stun.tests t).isCompleted = false then
      some (stun.dispatch (.receive t packet))
    else none

def stunStep (stun : Stun) : StunAction → Option Stun
  | .block transactionId =>
    match stun.stunDispatchQueue with
    | [] => some stun
    | block :: rest => runStunBlock { stun with stunDispatchQueue := rest } transactionId block
  | .read recvfrom => some (stunRead stun recvfrom)
  | .deliver i =>
    match stun.received[i]? with
    | none => some stun
    | some packet => stunDeliver { stun with received := stun.received.eraseIdx i } packet
  | .receive t i =>
    if (stun.tests t).receiveBlock then
      match stun.received[i]? with
      | none => some stun
      | some packet =>
        some ({ stun with received := stun.received.eraseIdx i }.dispatch (.receive t packet))
    else some stun
  | .release i =>
    match stun.application[i]? with
    | none => some stun
    | some packet =>
      some ({ stun with application := stun.application.eraseIdx i }.onSocket
        (netPacketRelease stun.socket packet))
  | .timeout t =>
    if (stun.tests t).timeoutBlock then some (stun.dispatch (.timeout t)) else some stun
  | .timeoutFired t =>
    if (stun.tests t).timeoutBlock then
      some (stun.setTest t { stun.tests t with timeoutValid := false })
    else some stun
  | .socketBlock => some (stun.onSocket (netSocketRunBlock stun.socket))
  | .write => some (stun.onSocket (netSocketWriteEvent stun.socket))

end UniversalNetwork
