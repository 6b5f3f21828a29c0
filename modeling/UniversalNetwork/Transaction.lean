import UniversalNetwork.Hashtable
import UniversalNetwork.Lib.Machine
import UniversalNetwork.NetSocket
import UniversalNetwork.TransactionProtocol

/-!
# Transactions (`transaction.h`, `transaction_internal.h`, `transaction.c`)

A configuration with its socket and its serial dispatch queue. A step is a call from outside
(`transactionRequest`, `transactionEnable`, `transactionDisable`), an event of the socket, a call
of the receive callback, a timer event, or the next block of one of the two queues. A fault
(`none`) is a null or dangling pointer or an access outside an array.

`transactionRequest` goes on with its transaction when the queues already know of it, so a call of it
is three steps: up to the dispatch of its block, up to `net_socket_send`, and the rest. Another step
may come in between, also one that frees the transaction.

Transactions are numbered in the order of their allocation; `heap` says which are allocated. The
event handler of a timer is two steps: it calls `transactionRetryOrFail`, and then it clears the flag
of its timeout. They are taken generously: a timer of a transaction may run either step at any time.
What a dispatch source counts as its references is left out.

Ghost state: the `agent` that runs the configuration, the `log` of what it did, a number (receipt)
for each packet handed to the receive callback, and the packets of the responses that found no
transaction (`lost`).
-/

namespace UniversalNetwork

open Lib

inductive TransactionState
  | idle
  | waiting
  | processing
  | acknowledged
  | error
  | timeout
deriving DecidableEq, Repr

structure Transaction where
  state : TransactionState
  id : Nat
  packet : Nat
  retries : Nat
  timeoutValid : Bool
deriving DecidableEq, Repr

def kTransactionMaxRetries : Nat := 2
def kTransactionMaxId : Nat := 0xFF

/-- The blocks dispatched to `transactionsDispatchQueue`. -/
inductive Block
  | insert (transaction : Nat)
  | response (packet id receipt : Nat)
  | request (packet id receipt : Nat)
  | retryOrFail (id : Nat)
  | enable
  | disable
deriving DecidableEq, Repr

inductive Event
  /-- `transactionRequest` allocated the transaction. -/
  | request (transaction : Nat) (object : TransactionObject)
  /-- Its packet was handed to `net_socket_send`. -/
  | send (transaction : Nat)
  /-- A response of this type was unpacked for it. -/
  | response (transaction : Nat) (responseType : UInt32)
  /-- `transactionSetComplete` was called in this state. -/
  | complete (transaction : Nat) (state : TransactionState)
  /-- `transactionRemoveAll` came upon it. -/
  | remove (transaction : Nat)
  | errorCallback (transaction : Nat)
  /-- It was deleted from the table. -/
  | delete (transaction : Nat)
  | free (transaction : Nat)
  /-- A datagram was stored in the packet, which is handed to the receive callback. -/
  | receive (packet receipt : Nat) (tag : Tag)
  /-- `net_packet_retain` and `net_packet_release` of a received packet. -/
  | retain (receipt : Nat)
  | release (receipt : Nat)
  | receiveCallback (tag : Tag) (object : TransactionObject)
deriving DecidableEq, Repr

/-- Where a call of `transactionRequest` goes on. -/
inductive RequestCall
  /-- The block is dispatched; the packet is next sent to this address. -/
  | sending (addr : NetAddr)
  /-- The packet is sent; the state and the timeout are next. -/
  | arming
  | returned
deriving DecidableEq, Repr

structure TransactionConfiguration where
  agent : Agent
  transactionsDispatchQueue : List Block
  transactions : Hashtable Nat
  cseq : Nat
  socket : NetSocket
  isEnabled : Bool
  receiveCallback : Bool
  errorCallback : Bool
  heap : List (Option Transaction)
  /-- The call that allocated the transaction. -/
  calls : Nat → RequestCall
  /-- Packets handed to the receive callback, which has not run yet, with their receipts. -/
  received : List (Nat × Nat)
  receipts : Nat
  lost : List (Nat × Nat)
  log : List Event

def transactionSetup (agent : Agent) (memory : Nat → Vector UInt8 kNetPacketMaxLen)
    (receiveCallback errorCallback : Bool) : TransactionConfiguration where
  agent
  transactionsDispatchQueue := []
  transactions := hashtableCreate kTransactionMaxId
  cseq := 0
  socket := netSocketCreate memory
  isEnabled := true
  receiveCallback
  errorCallback
  heap := []
  calls := fun _ => .returned
  received := []
  receipts := 0
  lost := []
  log := []

namespace TransactionConfiguration

variable (config : TransactionConfiguration)

def note (events : List Event) : TransactionConfiguration :=
  { config with log := config.log ++ events }

def dispatch (block : Block) : TransactionConfiguration :=
  { config with transactionsDispatchQueue := config.transactionsDispatchQueue ++ [block] }

/-- The transaction, if it is allocated. -/
def live (t : Nat) : Option Transaction := config.heap[t]?.join

def onSocket (socket : NetSocket) : TransactionConfiguration := { config with socket }

def setTransaction (t : Nat) (transaction : Transaction) : TransactionConfiguration :=
  { config with heap := config.heap.set t (some transaction) }

def setCall (t : Nat) (call : RequestCall) : TransactionConfiguration :=
  { config with calls := Function.update config.calls t call }

end TransactionConfiguration

/-! ## Alloc/Free -/

/-- `cseq` is a `uint8_t`. Null when no packet is available. -/
def transactionAlloc (config : TransactionConfiguration) :
    Option (Nat × TransactionConfiguration) :=
  (netPacketAlloc config.socket).map fun (packet, socket) =>
    (config.heap.length, { config with
      socket
      heap := config.heap ++
        [some { state := .idle, id := config.cseq, packet, retries := 0, timeoutValid := false }]
      cseq := (config.cseq + 1) % 256 % kTransactionMaxId })

def transactionFree (config : TransactionConfiguration) (t : Nat) :
    Option TransactionConfiguration := do
  let transaction ← config.live t
  some ({ config with
    socket := netPacketRelease config.socket transaction.packet
    heap := config.heap.set t none }.note [.free t])

def transactionDestroyTimeout (config : TransactionConfiguration) (t : Nat) :
    Option TransactionConfiguration := do
  let transaction ← config.live t
  some (config.setTransaction t { transaction with timeoutValid := false })

/-- The block of `transactionRemoveAll`. -/
def removeBlock (transactionId t : Nat) (config : TransactionConfiguration) :
    Option TransactionConfiguration := do
  let config := { config with
    transactions := hashtableDelete config.transactions transactionId }.note [.remove t, .delete t]
  let config ← transactionDestroyTimeout config t
  transactionFree config t

def transactionRemoveAll (config : TransactionConfiguration) : Option TransactionConfiguration :=
  hashtableIterate TransactionConfiguration.transactions removeBlock config

/-! ## Response -/

/-- The tag of the answer to a packet. -/
def Tag.answer : Tag → Tag
  | .request agent transaction => .response agent transaction
  | _ => .none

def packResponse (transactionId : Nat) (responseType : TransactionResponseType) : BitM Unit := do
  transactionProtocolPackHeader (UInt32.ofNat transactionId) .response
  transactionProtocolPackResponse responseType

/-- The packet of `net_packet_alloc` is used without a test. -/
def transactionResponse (config : TransactionConfiguration) (addr : NetAddr)
    (transactionId : Nat) (responseType : TransactionResponseType) (tag : Tag) :
    Option TransactionConfiguration := do
  let (packet, socket) ← netPacketAlloc config.socket
  let (_, socket) ← socket.onBitstream packet (packResponse transactionId responseType)
  let socket := socket.setPacket packet (netPacketAddr (socket.packet packet) addr)
  let socket := netSocketSend (socket.setTag packet tag) packet
  some (config.onSocket (netPacketRelease socket packet))

/-! ## Request -/

def packRequest (transactionId : Nat) (object : TransactionObject) : BitM Unit := do
  transactionProtocolPackHeader (UInt32.ofNat transactionId) .request
  transactionProtocolPackRequest object

/-- Up to the dispatch of the block. -/
def transactionRequest (config : TransactionConfiguration) (addr : NetAddr)
    (object : TransactionObject) : Option TransactionConfiguration :=
  match transactionAlloc config with
  | none => some config
  | some (t, config) => do
    let transaction ← config.live t
    let packet := transaction.packet
    let (_, socket) ← config.socket.onBitstream packet (packRequest transaction.id object)
    let config := config.onSocket (socket.setTag packet (.request config.agent t))
    let config := config.dispatch (.insert t)
    some ((config.note [.request t object]).setCall t (.sending addr))

/-- From the dispatch up to `net_socket_send`. -/
def transactionRequestSend (config : TransactionConfiguration) (t : Nat) (addr : NetAddr) :
    Option TransactionConfiguration := do
  let transaction ← config.live t
  let packet := transaction.packet
  let socket := config.socket.setPacket packet (netPacketAddr (config.socket.packet packet) addr)
  let config := config.onSocket (netSocketSend socket packet)
  some ((config.note [.send t]).setCall t .arming)

/-- The state and the timeout. -/
def transactionRequestArm (config : TransactionConfiguration) (t : Nat) :
    Option TransactionConfiguration := do
  let transaction ← config.live t
  some ((config.setTransaction t
    { transaction with state := .waiting, timeoutValid := true }).setCall t .returned)

/-- The call goes on. -/
def transactionProceed (config : TransactionConfiguration) (t : Nat) :
    Option TransactionConfiguration :=
  match config.calls t with
  | .sending addr => transactionRequestSend config t addr
  | .arming => transactionRequestArm config t
  | .returned => some config

/-! ## Completion -/

def transactionSetComplete (config : TransactionConfiguration) (t : Nat) :
    Option TransactionConfiguration := do
  let transaction ← config.live t
  let config := config.note [.complete t transaction.state]
  let config := config.note (if transaction.state ≠ .acknowledged ∧ config.errorCallback then
    [.errorCallback t] else [])
  let config := { config with
    transactions := hashtableDelete config.transactions transaction.id }.note [.delete t]
  transactionFree config t

/-- The block of `transactionRetryOrFail`. -/
def retryOrFailBlock (config : TransactionConfiguration) (transactionId : Nat) :
    Option TransactionConfiguration :=
  match hashtableSearch config.transactions transactionId with
  | none => some config
  | some t => do
    let transaction ← config.live t
    if transaction.state = .waiting then
      let config ← transactionDestroyTimeout config t
      if transaction.retries < kTransactionMaxRetries then
        let config := (config.onSocket
          (netSocketSend config.socket transaction.packet)).note [.send t]
        some (config.setTransaction t
          { transaction with retries := transaction.retries + 1, timeoutValid := true })
      else
        let config := config.setTransaction t
          { transaction with state := .timeout, timeoutValid := false }
        transactionSetComplete config t
    else some config

/-! ## Socket callback -/

def transactionDidReceiveResponse (config : TransactionConfiguration)
    (packet transactionId receipt : Nat) : TransactionConfiguration :=
  ((config.onSocket (netPacketRetain config.socket packet)).note [.retain receipt]).dispatch
    (.response packet transactionId receipt)

/-- The state of a transaction after a response of this type. -/
def responseState (responseType : UInt32) : TransactionState :=
  if responseType = TransactionResponseType.success.code then .acknowledged else .error

/-- The block of `transactionDidReceiveResponse`: the release is inside the test. -/
def responseBlock (config : TransactionConfiguration) (packet transactionId receipt : Nat) :
    Option TransactionConfiguration :=
  match hashtableSearch config.transactions transactionId with
  | none => some { config with lost := config.lost ++ [(packet, receipt)] }
  | some t => do
    let config ← transactionDestroyTimeout config t
    let ((_, responseType), socket) ←
      config.socket.onBitstream packet transactionProtocolUnpackResponse
    let config := (config.onSocket socket).note [.response t responseType]
    let transaction ← config.live t
    let config := config.setTransaction t
      { transaction with state := responseState responseType }
    let config ← transactionSetComplete config t
    some ((config.onSocket (netPacketRelease config.socket packet)).note [.release receipt])

def transactionDidReceiveRequest (config : TransactionConfiguration)
    (packet transactionId receipt : Nat) : TransactionConfiguration :=
  ((config.onSocket (netPacketRetain config.socket packet)).note [.retain receipt]).dispatch
    (.request packet transactionId receipt)

/-- The block of `transactionDidReceiveRequest`: the answer goes out before the request is
unpacked. -/
def requestBlock (config : TransactionConfiguration) (packet transactionId receipt : Nat) :
    Option TransactionConfiguration := do
  let tag := (config.socket.packet packet).tag
  let config ← transactionResponse config (config.socket.packet packet).addr transactionId
    .success tag.answer
  let memory := ObjectMemory.calloc kTransactionObjectSize (Nat.le_refl _)
  let ((unpackResult, object), socket) ←
    config.socket.onBitstream packet (transactionProtocolUnpackRequest memory)
  let config := config.onSocket socket
  let config := config.note (if config.receiveCallback ∧ unpackResult = .valid then
    [.receiveCallback tag object] else [])
  some ((config.onSocket (netPacketRelease config.socket packet)).note [.release receipt])

/-- The part of the callback for an enabled configuration. -/
def unpackReceived (config : TransactionConfiguration) (packet receipt : Nat) :
    Option TransactionConfiguration := do
  let ((unpackResult, transactionId, transactionType), socket) ←
    config.socket.onBitstream packet (transactionProtocolUnpackHeader 0 0)
  let config := config.onSocket socket
  if unpackResult = .valid then
    if transactionType = TransactionType.response.code then
      some (transactionDidReceiveResponse config packet transactionId.toNat receipt)
    else if transactionType = TransactionType.request.code then
      some (transactionDidReceiveRequest config packet transactionId.toNat receipt)
    else some config
  else some config

def transactionSocketReceiveCallback (config : TransactionConfiguration) (packet receipt : Nat) :
    Option TransactionConfiguration :=
  (if config.isEnabled then unpackReceived config packet receipt else some config).map
    fun config =>
      (config.onSocket (netPacketRelease config.socket packet)).note [.release receipt]

/-! ## The machine -/

/-- The block of `transactionRequest`. -/
def insertBlock (config : TransactionConfiguration) (t : Nat) :
    Option TransactionConfiguration := do
  let transaction ← config.live t
  some { config with transactions := hashtableInsert config.transactions transaction.id t }

def runTransactionBlock (config : TransactionConfiguration) : Block →
    Option TransactionConfiguration
  | .insert t => insertBlock config t
  | .response packet id receipt => responseBlock config packet id receipt
  | .request packet id receipt => requestBlock config packet id receipt
  | .retryOrFail id => retryOrFailBlock config id
  | .enable => some { config with isEnabled := true }
  | .disable =>
    if config.isEnabled then transactionRemoveAll { config with isEnabled := false }
    else some config

inductive TransactionAction
  /-- Calls from outside. -/
  | request (addr : NetAddr) (object : TransactionObject)
  /-- The call that allocated the transaction goes on. -/
  | proceed (transaction : Nat)
  | enable
  | disable
  /-- The read event, with what `recvfrom` returns. -/
  | read (recvfrom : RecvFrom)
  /-- The receive callback runs for the `i`-th packet handed to it. -/
  | callback (i : Nat)
  /-- The event handler of a timer of the transaction calls `transactionRetryOrFail`. -/
  | timeout (transaction : Nat)
  /-- The rest of the event handler. -/
  | timeoutFired (transaction : Nat)
  /-- The next block of `transactionsDispatchQueue`. -/
  | block
  /-- The next block of `socketDispatchQueue`. -/
  | socketBlock
  | write

/-- The timeout block, which reads the id of its transaction. -/
def timeoutBlock (config : TransactionConfiguration) (t : Nat) : Option TransactionConfiguration := do
  let transaction ← config.live t
  some (config.dispatch (.retryOrFail transaction.id))

def transactionStep (config : TransactionConfiguration) : TransactionAction →
    Option TransactionConfiguration
  | .request addr object => transactionRequest config addr object
  | .proceed t => transactionProceed config t
  | .enable => some (config.dispatch .enable)
  | .disable => some (config.dispatch .disable)
  | .read recvfrom =>
    match netSocketRead config.socket true recvfrom with
    | (none, socket) => some (config.onSocket socket)
    | (some packet, socket) => some ({ config with
        socket
        received := config.received ++ [(packet, config.receipts)]
        receipts := config.receipts + 1 }.note
          [.receive packet config.receipts (socket.packet packet).tag])
  | .callback i =>
    match config.received[i]? with
    | none => some config
    | some (packet, receipt) =>
      transactionSocketReceiveCallback { config with received := config.received.eraseIdx i }
        packet receipt
  -- a transaction that was never allocated has no timer
  | .timeout t => if t < config.heap.length then timeoutBlock config t else some config
  | .timeoutFired t =>
    if t < config.heap.length then transactionDestroyTimeout config t else some config
  | .block =>
    match config.transactionsDispatchQueue with
    | [] => some config
    | block :: rest =>
      runTransactionBlock { config with transactionsDispatchQueue := rest } block
  | .socketBlock => some (config.onSocket (netSocketRunBlock config.socket))
  | .write => some (config.onSocket (netSocketWriteEvent config.socket))

end UniversalNetwork
