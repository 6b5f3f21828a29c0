import UniversalNetwork.Lib.Machine

/-!
# Timeouts (`timeout.h`, `timeout.c`)

A `timeout_t` is a pointer to a dispatch source and a flag. The event handler of a source calls back,
clears the flag and releases the source; it reads the pointer again after the callback, which may have
created another source or destroyed the one that fires.

The sources are numbered in the order of their creation, and `released` are the arguments of
`dispatch_release`, null pointers among them. A source delivers its event once, and none after it
was cancelled or its reference was released.
-/

namespace UniversalNetwork

open Lib

def kNSEC_PER_MILLISEC : BitVec 64 := 1000000

inductive DispatchQueue
  /-- The global queue of default priority. -/
  | global
  | queue (queue : Nat)
deriving DecidableEq, Repr

/-- What the event handler of a source calls. -/
inductive TimeoutHandler
  | callback (callback : Nat)
  | block (block : Nat)
deriving DecidableEq, Repr

structure DispatchSource where
  queue : DispatchQueue
  /-- The timer's delay in nanoseconds. -/
  delay : BitVec 64
  context : Nat
  handler : TimeoutHandler
  fired : Bool
  cancelled : Bool
deriving DecidableEq, Repr

/-- `timeout_t` -/
structure Timeout where
  timerDispatchSource : Option Nat
  valid : Bool
deriving DecidableEq, Repr

/-- A timeout with the sources created for it. -/
structure TimeoutState where
  timeout : Timeout
  sources : List DispatchSource
  released : List (Option Nat)
  /-- What the handlers called, a callback with its context. -/
  called : List (TimeoutHandler × Option Nat)
deriving DecidableEq, Repr

/-- Not valid at first. -/
def timeoutInit : TimeoutState := ⟨⟨none, false⟩, [], [], []⟩

namespace TimeoutState

variable (s : TimeoutState)

def setValid (valid : Bool) : TimeoutState := { s with timeout := { s.timeout with valid } }

/-- `dispatch_release` -/
def release (source : Option Nat) : TimeoutState := { s with released := s.released ++ [source] }

/-- `dispatch_source_cancel` -/
def cancel (source : Option Nat) : TimeoutState :=
  match source with
  | none => s
  | some k => { s with
      sources := s.sources.modify k fun source => { source with cancelled := true } }

/-- Created, and neither fired nor cancelled nor released. -/
def Live (k : Nat) : Prop :=
  (∃ source ∈ s.sources[k]?, source.fired = false ∧ source.cancelled = false) ∧
    some k ∉ s.released

instance (k : Nat) : Decidable (s.Live k) := inferInstanceAs (Decidable (_ ∧ _))

end TimeoutState

/-! ## Creating and destroying -/

def timeoutDestroy (s : TimeoutState) : TimeoutState :=
  if s.timeout.valid then
    ((s.setValid false).cancel s.timeout.timerDispatchSource).release s.timeout.timerDispatchSource
  else s

/-- The source is what `dispatch_source_create` returns and the calls after it make of it. -/
def timeoutArm (s : TimeoutState) (source : Option DispatchSource) : TimeoutState :=
  let s := if s.timeout.valid then timeoutDestroy s else s
  match source with
  | none => { s with timeout := { s.timeout with timerDispatchSource := none } }
  | some source => { s with
      timeout := ⟨some s.sources.length, true⟩
      sources := s.sources ++ [source] }

/-- A source that fires after so many milliseconds. -/
def timerSource (queue : DispatchQueue) (milliseconds : Int) (context : Nat)
    (handler : TimeoutHandler) : DispatchSource where
  queue
  delay := BitVec.ofInt 64 milliseconds * kNSEC_PER_MILLISEC
  context
  handler
  fired := false
  cancelled := false

/-- The source is created, or `dispatch_source_create` returns null. -/
def timeoutCreate (s : TimeoutState) (callback context : Nat) (milliseconds : Int)
    (created : Bool) : TimeoutState :=
  timeoutArm s (if created then
    some (timerSource .global milliseconds context (.callback callback)) else none)

def timeoutCreateBlock (s : TimeoutState) (block : Nat) (milliseconds : Int) (created : Bool) :
    TimeoutState :=
  timeoutArm s (if created then some (timerSource .global milliseconds 0 (.block block)) else none)

def timeoutCreateQueue (s : TimeoutState) (queue : Nat) (milliseconds : Int) (block : Nat)
    (created : Bool) : TimeoutState :=
  timeoutArm s (if created then
    some (timerSource (.queue queue) milliseconds 0 (.block block)) else none)

/-! ## Firing -/

inductive TimeoutCall
  | create (callback context : Nat) (milliseconds : Int) (created : Bool)
  | createBlock (block : Nat) (milliseconds : Int) (created : Bool)
  | createQueue (queue : Nat) (milliseconds : Int) (block : Nat) (created : Bool)
  | destroy
deriving DecidableEq, Repr

def timeoutCall (s : TimeoutState) : TimeoutCall → TimeoutState
  | .create callback context milliseconds created =>
    timeoutCreate s callback context milliseconds created
  | .createBlock block milliseconds created => timeoutCreateBlock s block milliseconds created
  | .createQueue queue milliseconds block created =>
    timeoutCreateQueue s queue milliseconds block created
  | .destroy => timeoutDestroy s

/-- What a handler calls: a callback is called with the context of the timeout's source. -/
def TimeoutState.handlerCall (s : TimeoutState) : TimeoutHandler → TimeoutHandler × Option Nat
  | .callback callback => (.callback callback,
      (s.timeout.timerDispatchSource.bind (s.sources[·]?)).map (·.context))
  | .block block => (.block block, none)

/-- The event handler of the source `k`, whose callback makes these calls for the timeout. -/
def timeoutFire (s : TimeoutState) (k : Nat) (source : DispatchSource)
    (callback : List TimeoutCall) : TimeoutState :=
  let s := { s with sources := s.sources.set k { source with fired := true } }
  let s := { s with called := s.called ++ [s.handlerCall source.handler] }
  let s := callback.foldl timeoutCall s
  let s := s.setValid false
  s.release s.timeout.timerDispatchSource

inductive TimeoutAction
  | call (call : TimeoutCall)
  /-- The source fires, if it is live. -/
  | fire (k : Nat) (callback : List TimeoutCall)
deriving DecidableEq, Repr

def timeoutStep (s : TimeoutState) : TimeoutAction → Option TimeoutState
  | .call call => some (timeoutCall s call)
  | .fire k callback =>
    match s.sources[k]? with
    | none => some s
    | some source => some (if s.Live k then timeoutFire s k source callback else s)

end UniversalNetwork
