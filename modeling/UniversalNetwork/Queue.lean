import Mathlib.Algebra.Ring.Int.Defs
import Mathlib.Algebra.Ring.Nat
import Mathlib.Logic.Function.Basic
import Mathlib.Tactic.Simps.Basic
import Mathlib.Tactic.Common

/-!
# The queue (`queue.h`, `queue.c`)

The nodes of a queue come from `malloc`, one at a time, and are kept: a node that was popped waits in
the chain of the reserved ones until a push takes it again, with the link it has there.

A node is addressed by its number in the order of allocation, from 1 on, and 0 is `NULL`. `none` is
an access through any other pointer, or a loop that does not end. Objects are addresses too.
-/

namespace UniversalNetwork

/-- `struct queue_node_s` -/
structure QueueNode where
  object : Nat
  next : Nat
deriving DecidableEq, Repr

/-- `struct queue_s`, with the memory for its nodes. -/
structure QueueStruct where
  head : Nat
  tail : Nat
  reserved : Nat
  nodes : Nat → QueueNode
  allocated : Nat

def queueCreate : QueueStruct where
  head := 0
  tail := 0
  reserved := 0
  nodes := fun _ => ⟨0, 0⟩
  allocated := 0

namespace QueueStruct

variable (q : QueueStruct)

def node (pointer : Nat) : Option QueueNode :=
  if 1 ≤ pointer ∧ pointer ≤ q.allocated then some (q.nodes pointer) else none

@[simps]
def put (pointer : Nat) (node : QueueNode) : QueueStruct :=
  { q with nodes := Function.update q.nodes pointer node }

def setNode (pointer : Nat) (node : QueueNode) : Option QueueStruct :=
  if 1 ≤ pointer ∧ pointer ≤ q.allocated then some (q.put pointer node) else none

/-- `malloc` of a node, with what the memory holds if there is some. -/
def malloc : Option QueueNode → Nat × QueueStruct
  | none => (0, q)
  | some node => (q.allocated + 1, { q with
      nodes := Function.update q.nodes (q.allocated + 1) node
      allocated := q.allocated + 1 })

def queueIsEmpty : Bool := q.head = 0 ∧ q.tail = 0

/-- The node that `queue_push` uses: a reserved one, or a new one. -/
def takeNode (memory : Option QueueNode) : Option (Nat × QueueStruct) :=
  if q.reserved ≠ 0 then do
    let node ← q.node q.reserved
    some (q.reserved, { q with reserved := node.next })
  else some (q.malloc memory)

def queuePush (o : Nat) (memory : Option QueueNode) : Option QueueStruct := do
  let (pushQueueNode, q) ← q.takeNode memory
  if pushQueueNode ≠ 0 then
    let q ← q.setNode pushQueueNode ⟨o, 0⟩
    if q.head = 0 ∧ q.tail = 0 then some { q with head := pushQueueNode, tail := pushQueueNode }
    else
      let tail ← q.node q.tail
      let q ← q.setNode q.tail { tail with next := pushQueueNode }
      some { q with tail := pushQueueNode }
  else some q

/-- The object, or `NULL`. -/
def queuePop : Option (Nat × QueueStruct) :=
  if ¬ (q.head = 0 ∧ q.tail = 0) then do
    let popQueueNode := q.head
    let node ← q.node popQueueNode
    let popQueueObject := node.object
    let q : QueueStruct :=
      if q.head = q.tail then { q with head := 0, tail := 0 } else { q with head := node.next }
    let node ← q.node popQueueNode
    let q ← q.setNode popQueueNode { node with next := q.reserved }
    some (popQueueObject, { q with reserved := popQueueNode })
  else some (0, q)

/-- The loop of a debug function, with a counter of type `int`. One that visits more nodes than were
allocated does not end. -/
def debugCount : (turns : Nat) → (count : Int) → (pointer : Nat) → Option Int
  | 0, _, _ => none
  | turns + 1, count, pointer =>
    if pointer = 0 then some count
    else do
      let node ← q.node pointer
      debugCount turns ((count + 1).bmod (2 ^ 32)) node.next

def debugQueueEnqueuedCount : Option Int := q.debugCount (q.allocated + 1) 0 q.head

def debugQueueReservedCount : Option Int := q.debugCount (q.allocated + 1) 0 q.reserved

end QueueStruct

end UniversalNetwork
