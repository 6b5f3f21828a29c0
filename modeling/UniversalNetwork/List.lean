import Mathlib.Algebra.Ring.Int.Defs
import Mathlib.Algebra.Ring.Nat
import UniversalNetwork.Lib.Machine

/-!
# The linked list (`list.h`, `list.c`)

The nodes of a list are in one block, `reserved_mem`, and are linked by their index in it; index 0
stands for no node. Nodes that are not in the list are linked from `reserved` on. When none is left
the block is reallocated with ten more nodes.

`none` is an access outside the block, or a loop that does not end. Indices and capacities are of type
`unsigned int`; objects are addresses, with 0 for `NULL`.
-/

namespace UniversalNetwork

open Lib

def kListNullNode : Nat := 0
def kListDefaultCapacity : Nat := 10

/-- `struct list_node_s` -/
structure ListNode where
  object : Nat
  next : Nat
  previous : Nat
deriving DecidableEq, Repr

/-- `struct list_s` -/
structure ListStruct where
  head : Nat
  tail : Nat
  reserved : Nat
  reservedMem : Nat → ListNode
  /-- The nodes that the block has memory for. -/
  size : Nat
  capacity : Nat

namespace ListStruct

variable (l : ListStruct)

/-- What `mListNode` points to. -/
def node (index : Nat) : Option ListNode :=
  if index < l.size then some (l.reservedMem index) else none

@[simps]
def put (index : Nat) (node : ListNode) : ListStruct :=
  { l with reservedMem := Function.update l.reservedMem index node }

def setNode (index : Nat) (node : ListNode) : Option ListStruct :=
  if index < l.size then some (l.put index node) else none

/-! ## Memory -/

/-- `realloc` to a block of `size` nodes, the new ones with what is in `memory`; the nodes that were
there are kept. Without memory `reserved_mem` is `NULL`. -/
def realloc (size : Nat) : Option (Nat → ListNode) → ListStruct
  | none => { l with size := 0 }
  | some memory => { l with
      reservedMem := fun i => if i < l.size then l.reservedMem i else memory i
      size }

/-- The loop of `list_reserve`, with `i` turns to go: the index of the node woven last. -/
def weave (l : ListStruct) : (i next : Nat) → Option (Nat × ListStruct)
  | 0, next => some (next, l)
  | i + 1, next => do
    let weaveNodeIndex := (l.capacity + (i + 1)) % 2 ^ 32
    let l ← l.setNode weaveNodeIndex ⟨0, next, kListNullNode⟩
    weave l i weaveNodeIndex

/-- The counter of the loop is an `int`, negative for a capacity from `2^31` on. -/
def listReserve (capacity : Nat) (memory : Option (Nat → ListNode)) :
    Option (Nat × ListStruct) := do
  let newCapacity := (l.capacity + capacity) % 2 ^ 32
  let l := l.realloc ((1 + newCapacity) % 2 ^ 32) memory
  if memory.isSome then
    let (reserved, l) ← l.weave (if capacity < 2 ^ 31 then capacity else 0) kListNullNode
    some (newCapacity, { l with reserved, capacity := newCapacity })
  else some (0, l)

end ListStruct

/-- The memory is what `realloc` finds, if it succeeds. -/
def listCreate (initialCapacity : Nat) (memory : Option (Nat → ListNode)) : Option ListStruct := do
  let l : ListStruct :=
    { head := kListNullNode
      tail := kListNullNode
      reserved := kListNullNode
      reservedMem := fun _ => ⟨0, 0, 0⟩
      size := 0
      capacity := 0 }
  let (_, l) ← l.listReserve initialCapacity memory
  some l

namespace ListStruct

variable (l : ListStruct)

/-! ## Loops over the nodes -/

/-- The loop from `index` on: `body` returns early with an error, `done` is what follows the loop. One
that visits more nodes than the block has does not end. -/
def loop {σ β : Type} (body : σ → Nat → ListNode → Except β σ) (done : σ → β) :
    (turns : Nat) → σ → (index : Nat) → Option β
  | 0, _, _ => none
  | turns + 1, s, index =>
    if index = kListNullNode then
      some (done s)
    else do
      let node ← l.node index
      match body s index node with
      | .error result => some result
      | .ok s => loop body done turns s node.next

def listIsEmpty : Bool := l.head = kListNullNode ∧ l.tail = kListNullNode

def listFindNodeIndex (o : Nat) : Option Nat :=
  l.loop (fun () index node => if node.object = o then .error index else .ok ())
    (fun () => kListNullNode) (l.size + 1) () l.head

def listFind (compareBlock : Nat → Bool) : Option Nat :=
  l.loop (fun () _ node => if compareBlock node.object then .error node.object else .ok ())
    (fun () => 0) (l.size + 1) () l.head

/-- The objects with which the block is executed. -/
def listIterate : Option (List Nat) :=
  l.loop (fun objects _ node => .ok (objects ++ [node.object])) id (l.size + 1) [] l.head

/-- A counter of type `int`. -/
def debugCount (index : Nat) : Option Int :=
  l.loop (fun count _ _ => .ok ((count + 1).bmod (2 ^ 32))) id (l.size + 1) 0 index

def debugListAddedCount : Option Int := l.debugCount l.head

def debugListReservedCount : Option Int := l.debugCount l.reserved

/-! ## Adding and removing -/

/-- A node of the reserved ones becomes the tail. -/
def addNode (o : Nat) : Option ListStruct := do
  let addListNodeIndex := l.reserved
  let addListNode ← l.node addListNodeIndex
  let l := { l with reserved := addListNode.next }
  let l ← l.setNode addListNodeIndex ⟨o, kListNullNode, kListNullNode⟩
  if l.tail ≠ kListNullNode then
    let tail ← l.node l.tail
    let l ← l.setNode l.tail { tail with next := addListNodeIndex }
    let addListNode ← l.node addListNodeIndex
    let l ← l.setNode addListNodeIndex { addListNode with previous := l.tail }
    some { l with tail := addListNodeIndex }
  else some { l with head := addListNodeIndex, tail := addListNodeIndex }

def listAdd (o : Nat) (memory : Option (Nat → ListNode)) : Option ListStruct :=
  if l.reserved = kListNullNode then do
    let (newCapacity, l) ← l.listReserve kListDefaultCapacity memory
    if newCapacity = 0 then some l else l.addNode o
  else l.addNode o

/-- The links around a node lead past it. -/
def unlink (index : Nat) : Option ListStruct := do
  let removeListNode ← l.node index
  if removeListNode.previous = kListNullNode then
    if removeListNode.next = kListNullNode then
      some { l with head := kListNullNode, tail := kListNullNode }
    else
      let next ← l.node removeListNode.next
      let l ← l.setNode removeListNode.next { next with previous := kListNullNode }
      let removeListNode ← l.node index
      some { l with head := removeListNode.next }
  else if removeListNode.next = kListNullNode then
    let l := { l with tail := removeListNode.previous }
    let tail ← l.node l.tail
    l.setNode l.tail { tail with next := kListNullNode }
  else
    let previous ← l.node removeListNode.previous
    let l ← l.setNode removeListNode.previous { previous with next := removeListNode.next }
    let removeListNode ← l.node index
    let next ← l.node removeListNode.next
    l.setNode removeListNode.next { next with previous := removeListNode.previous }

def listRemove (o : Nat) : Option ListStruct := do
  let removeListNodeIndex ← l.listFindNodeIndex o
  let l ← l.unlink removeListNodeIndex
  let removeListNode ← l.node removeListNodeIndex
  let l ← l.setNode removeListNodeIndex
    { removeListNode with next := l.reserved, previous := kListNullNode }
  some { l with reserved := removeListNodeIndex }

end ListStruct

end UniversalNetwork
