import UniversalNetwork.Lib.Chain
import UniversalNetwork.Lib.Machine
import UniversalNetwork.Queue
import Mathlib.Data.List.Range

/-!
# A queue is a FIFO

`Linked q enqueued reserved`: the nodes `enqueued` are linked from `head` on and end at `tail`, the
nodes `reserved` are linked from `reserved` on, and together they are all that were allocated, each
once. A push moves the first reserved node behind the tail, or a new one when there is none, and a
pop moves the first enqueued node to the front of the reserved ones.

* `queue_fifo`: in every run what was pushed is what was popped and then what is enqueued, and there
  are as many nodes as were ever enqueued at one time.
-/

namespace UniversalNetwork

open Lib

namespace QueueStruct

def next (q : QueueStruct) (pointer : Nat) : Nat := (q.nodes pointer).next

def object (q : QueueStruct) (pointer : Nat) : Nat := (q.nodes pointer).object

structure Linked (q : QueueStruct) (enqueued reserved : List Nat) : Prop where
  forwards : Chain 0 q.next q.head enqueued
  tail : q.tail = enqueued.getLast?.getD 0
  free : Chain 0 q.next q.reserved reserved
  nodes : (enqueued ++ reserved).Perm (List.range' 1 q.allocated)

theorem linked_create : queueCreate.Linked [] [] where
  forwards := chain_nil.2 rfl
  tail := rfl
  free := chain_nil.2 rfl
  nodes := List.Perm.refl _

section Linked

variable {q : QueueStruct} {enqueued reserved : List Nat} (h : q.Linked enqueued reserved)
  {i : Nat}
include h

theorem Linked.nodup : (enqueued ++ reserved).Nodup := h.nodes.nodup_iff.2 List.nodup_range'

theorem Linked.mem_iff : i ∈ enqueued ++ reserved ↔ 1 ≤ i ∧ i ≤ q.allocated := by
  rw [h.nodes.mem_iff, List.mem_range'_1]
  omega

theorem Linked.length : enqueued.length + reserved.length = q.allocated := by
  have := h.nodes.length_eq
  rwa [List.length_append, List.length_range'] at this

theorem Linked.node_eq (hi : i ∈ enqueued ++ reserved) : q.node i = some (q.nodes i) :=
  if_pos (h.mem_iff.1 hi)

theorem Linked.setNode_eq (hi : i ∈ enqueued ++ reserved) (node : QueueNode) :
    q.setNode i node = some (q.put i node) :=
  if_pos (h.mem_iff.1 hi)

theorem Linked.head_eq_zero : q.head = 0 ↔ enqueued = [] := h.forwards.start_eq_null

theorem Linked.tail_eq_zero : q.tail = 0 ↔ enqueued = [] := by
  rw [h.tail]
  rcases List.eq_nil_or_concat enqueued with rfl | ⟨as, t, rfl⟩
  · simp
  · have ht := (h.mem_iff (i := t)).1 (by simp)
    simp only [List.concat_eq_append, List.getLast?_concat, Option.getD_some]
    simp
    omega

theorem Linked.queueIsEmpty_eq : q.queueIsEmpty = enqueued.isEmpty := by
  simp only [queueIsEmpty, h.head_eq_zero, h.tail_eq_zero, and_self]
  cases enqueued <;> rfl

/-! ## Popping -/

theorem Linked.queuePop_nil (hnil : enqueued = []) : q.queuePop = some (0, q) := by
  rw [queuePop, if_neg]
  rw [not_not]
  exact ⟨h.head_eq_zero.2 hnil, h.tail_eq_zero.2 hnil⟩

end Linked

/-- The first enqueued node is the first reserved one. -/
theorem Linked.queuePop {q : QueueStruct} {i : Nat} {enqueued reserved : List Nat}
    (h : q.Linked (i :: enqueued) reserved) :
    ∃ q', q.queuePop = some (q.object i, q') ∧ q'.Linked enqueued (i :: reserved) ∧
      q'.allocated = q.allocated ∧ enqueued.map q'.object = enqueued.map q.object := by
  have hi : i ∈ i :: enqueued ++ reserved := by simp
  obtain ⟨hhead, hne, hrest⟩ := chain_cons.1 h.forwards
  have hnodup := h.nodup
  rw [List.cons_append, List.nodup_cons, List.mem_append, not_or] at hnodup
  obtain ⟨⟨hienqueued, hireserved⟩, -⟩ := hnodup
  have hlast : q.head = q.tail ↔ enqueued = [] := by
    rw [h.tail, hhead]
    rcases List.eq_nil_or_concat enqueued with rfl | ⟨as, t, rfl⟩
    · simp
    · rw [List.concat_eq_append, ← List.cons_append, List.getLast?_concat, Option.getD_some]
      refine iff_of_false ?_ (by simp)
      rintro rfl
      exact hienqueued (by simp)
  have hother : ∀ j, j ≠ i → Function.update q.nodes i ⟨q.object i, q.reserved⟩ j = q.nodes j :=
    fun j hj => Function.update_of_ne hj _ _
  have hold : ∀ j ∈ enqueued, Function.update q.nodes i ⟨q.object i, q.reserved⟩ j = q.nodes j :=
    fun j hj => hother j fun heq => hienqueued (heq ▸ hj)
  have hbounds := h.mem_iff.1 hi
  refine ⟨{ q.put i ⟨q.object i, q.reserved⟩ with
    head := q.next i
    tail := if enqueued = [] then 0 else q.tail
    reserved := i }, ?_, ⟨?_, ?_, ?_, ?_⟩, rfl, ?_⟩
  · have hnode : q.node q.head = some (q.nodes i) := by
      rw [hhead]
      exact h.node_eq hi
    rw [QueueStruct.queuePop, if_pos fun hzero => hne (hhead ▸ hzero.1)]
    dsimp only
    rw [hnode, Option.bind_eq_bind, Option.bind_some]
    by_cases hnil : enqueued = []
    · have hnext : q.next i = 0 := hrest.start_eq_null.2 hnil
      rw [if_pos (hlast.2 hnil), if_pos hnil, hhead, hnext]
      simp only [node, setNode, if_pos hbounds, Option.bind_eq_bind, Option.bind_some]
      rfl
    · rw [if_neg fun heq => hnil (hlast.1 heq), if_neg hnil, hhead]
      simp only [node, setNode, if_pos hbounds, Option.bind_eq_bind, Option.bind_some]
      rfl
  · exact hrest.congr fun j hj => congrArg QueueNode.next (hold j hj)
  · show (if enqueued = [] then 0 else q.tail) = _
    split
    · rename_i hnil
      rw [hnil]
      rfl
    · rename_i hnil
      rw [h.tail, List.getLast?_cons, List.getLast?_eq_some_getLast hnil]
      rfl
  · refine chain_cons.2 ⟨rfl, hne, ?_⟩
    have hlink : next { q.put i ⟨q.object i, q.reserved⟩ with
        head := q.next i
        tail := if enqueued = [] then 0 else q.tail
        reserved := i } i = q.reserved :=
      congrArg QueueNode.next (Function.update_self i _ q.nodes)
    rw [hlink]
    exact h.free.congr fun j hj =>
      congrArg QueueNode.next (hother j fun heq => hireserved (heq ▸ hj))
  · exact List.perm_middle.trans h.nodes
  · exact List.map_congr_left fun j hj => congrArg QueueNode.object (hold j hj)

/-! ## Pushing -/

/-- A node that is in neither chain. -/
structure Spare (q : QueueStruct) (enqueued reserved : List Nat) (i : Nat) : Prop where
  forwards : Chain 0 q.next q.head enqueued
  tail : q.tail = enqueued.getLast?.getD 0
  free : Chain 0 q.next q.reserved reserved
  nodes : (enqueued ++ i :: reserved).Perm (List.range' 1 q.allocated)

theorem Linked.takeNode_reserved {q : QueueStruct} {i : Nat} {enqueued reserved : List Nat}
    (h : q.Linked enqueued (i :: reserved)) (memory : Option QueueNode) :
    ∃ q', q.takeNode memory = some (i, q') ∧ q'.Spare enqueued reserved i ∧
      q'.allocated = q.allocated ∧ enqueued.map q'.object = enqueued.map q.object := by
  obtain ⟨hstart, hne, hfree⟩ := chain_cons.1 h.free
  refine ⟨{ q with reserved := q.next i }, ?_, ⟨h.forwards, h.tail, hfree, h.nodes⟩, rfl, rfl⟩
  rw [takeNode, hstart, if_pos hne, h.node_eq (by simp)]
  rfl

theorem Linked.takeNode_nil {q : QueueStruct} {enqueued : List Nat} (h : q.Linked enqueued [])
    (node : QueueNode) :
    ∃ q' i, q.takeNode (some node) = some (i, q') ∧ q'.Spare enqueued [] i ∧
      q'.allocated = q.allocated + 1 ∧ enqueued.map q'.object = enqueued.map q.object := by
  have hold : ∀ j ∈ enqueued,
      Function.update q.nodes (q.allocated + 1) node j = q.nodes j := by
    intro j hj
    have hle := h.mem_iff.1 (List.mem_append_left [] hj)
    exact Function.update_of_ne (by omega) _ _
  refine ⟨(q.malloc (some node)).2, q.allocated + 1, ?_,
    ⟨?_, h.tail, chain_nil.2 h.free.path, ?_⟩, rfl, ?_⟩
  · exact if_neg (not_not_intro h.free.path)
  · exact h.forwards.congr fun j hj => congrArg QueueNode.next (hold j hj)
  · have hnodes := h.nodes
    rw [List.append_nil] at hnodes
    have hrange : List.range' 1 (q.allocated + 1) =
        List.range' 1 q.allocated ++ [q.allocated + 1] := by
      rw [List.range'_concat]
      simp [Nat.add_comm]
    show (enqueued ++ [q.allocated + 1]).Perm (List.range' 1 (q.allocated + 1))
    rw [hrange]
    exact hnodes.append_right _
  · exact List.map_congr_left fun j hj => congrArg QueueNode.object (hold j hj)

/-- The spare node becomes the tail. -/
theorem Spare.enqueue {q : QueueStruct} {enqueued reserved : List Nat} {i : Nat}
    (h : q.Spare enqueued reserved i) (o : Nat) :
    ∃ q', (do
        let q ← q.setNode i ⟨o, 0⟩
        if q.head = 0 ∧ q.tail = 0 then some { q with head := i, tail := i }
        else
          let tail ← q.node q.tail
          let q ← q.setNode q.tail { tail with next := i }
          some { q with tail := i } : Option QueueStruct) = some q' ∧
      q'.Linked (enqueued ++ [i]) reserved ∧ q'.allocated = q.allocated ∧
      (enqueued ++ [i]).map q'.object = enqueued.map q.object ++ [o] := by
  have hmem : ∀ {j}, j ∈ enqueued ++ i :: reserved ↔ 1 ≤ j ∧ j ≤ q.allocated := by
    intro j
    rw [h.nodes.mem_iff, List.mem_range'_1]
    omega
  have hnodup : (enqueued ++ i :: reserved).Nodup := h.nodes.nodup_iff.2 List.nodup_range'
  have hi := (hmem (j := i)).1 (by simp)
  have hnodes : (enqueued ++ [i] ++ reserved).Perm (List.range' 1 q.allocated) := by
    rw [List.append_assoc]
    exact h.nodes
  rw [List.nodup_append, List.nodup_cons] at hnodup
  obtain ⟨henqueued, ⟨hireserved, -⟩, hdisjoint⟩ := hnodup
  have hienqueued : i ∉ enqueued := fun hmem => hdisjoint i hmem i List.mem_cons_self rfl
  have hset : q.setNode i ⟨o, 0⟩ = some (q.put i ⟨o, 0⟩) := if_pos hi
  rw [hset, Option.bind_eq_bind, Option.bind_some]
  simp only [put_head, put_tail]
  rcases List.eq_nil_or_concat enqueued with rfl | ⟨as, t, rfl⟩
  · rw [if_pos ⟨h.forwards.path, h.tail⟩]
    have hnew : (q.put i ⟨o, 0⟩).nodes i = ⟨o, 0⟩ := Function.update_self _ _ _
    refine ⟨_, rfl, ⟨chain_cons.2 ⟨rfl, by omega, ?_⟩, rfl, ?_, hnodes⟩, rfl, ?_⟩
    · exact chain_nil.2 (congrArg QueueNode.next hnew)
    · refine h.free.congr fun j hj => ?_
      have hji : j ≠ i := fun heq => hireserved (heq ▸ hj)
      exact congrArg QueueNode.next (Function.update_of_ne hji _ _)
    · exact congrArg (fun node => [QueueNode.object node]) hnew
  · rw [List.concat_eq_append] at *
    have htail : q.tail = t := by rw [h.tail, List.getLast?_concat, Option.getD_some]
    have ht := (hmem (j := t)).1 (by simp)
    have hti : t ≠ i := fun heq => hienqueued (by simp [heq])
    have htas : t ∉ as := fun hmem => (List.nodup_append.1 henqueued).2.2 t hmem t (by simp) rfl
    have htreserved : t ∉ reserved := fun hmem =>
      hdisjoint t (by simp) t (List.mem_cons_of_mem _ hmem) rfl
    have hne : ¬ (q.head = 0 ∧ q.tail = 0) := fun hzero => by
      have := htail ▸ hzero.2
      omega
    set nodes := Function.update (Function.update q.nodes i ⟨o, 0⟩) t
      { q.nodes t with next := i } with hnodes'
    have hnew : nodes i = ⟨o, 0⟩ := by
      rw [hnodes', Function.update_of_ne hti.symm, Function.update_self]
    have hlast : nodes t = { q.nodes t with next := i } := Function.update_self _ _ _
    have hother : ∀ j, j ≠ i → j ≠ t → nodes j = q.nodes j := by
      intro j hji hjt
      rw [hnodes', Function.update_of_ne hjt, Function.update_of_ne hji]
    refine ⟨{ q with nodes, tail := i }, ?_, ⟨?_, ?_, ?_, hnodes⟩, rfl, ?_⟩
    · rw [if_neg hne, htail]
      simp only [node, setNode, put_allocated, if_pos ht, Option.bind_eq_bind, Option.bind_some,
        put_nodes, Function.update_of_ne hti]
      rfl
    · refine h.forwards.extend ?_ ?_ (by omega) fun j hj => ?_
      · exact congrArg QueueNode.next hlast
      · exact congrArg QueueNode.next hnew
      · exact congrArg QueueNode.next
          (hother j (fun heq => hienqueued (by simp [← heq, hj])) fun heq => htas (heq ▸ hj))
    · rw [List.getLast?_concat]
      rfl
    · refine h.free.congr fun j hj => ?_
      exact congrArg QueueNode.next
        (hother j (fun heq => hireserved (heq ▸ hj)) fun heq => htreserved (heq ▸ hj))
    · rw [List.map_append]
      congr 1
      · refine List.map_congr_left fun j hj => ?_
        rcases List.mem_append.1 hj with hj | hj
        · exact congrArg QueueNode.object
            (hother j (fun heq => hienqueued (by simp [← heq, hj])) fun heq => htas (heq ▸ hj))
        · have hobject : (nodes t).object = q.object t := by
            rw [hlast]
            rfl
          rw [List.mem_singleton.1 hj]
          exact hobject
      · exact congrArg (fun node => [QueueNode.object node]) hnew

/-- `queue_push` with memory for a node. -/
theorem Linked.queuePush {q : QueueStruct} {enqueued reserved : List Nat}
    (h : q.Linked enqueued reserved) (o : Nat) (node : QueueNode) :
    ∃ q' i, q.queuePush o (some node) = some q' ∧
      q'.Linked (enqueued ++ [i]) reserved.tail ∧
      q'.allocated = q.allocated + (if reserved = [] then 1 else 0) ∧
      (enqueued ++ [i]).map q'.object = enqueued.map q.object ++ [o] := by
  obtain ⟨q₁, i, htake, hspare, hallocated, hobjects⟩ : ∃ q₁ i,
      q.takeNode (some node) = some (i, q₁) ∧ q₁.Spare enqueued reserved.tail i ∧
        q₁.allocated = q.allocated + (if reserved = [] then 1 else 0) ∧
        enqueued.map q₁.object = enqueued.map q.object := by
    cases reserved with
    | nil =>
      obtain ⟨q₁, i, htake, hspare, hrest⟩ := h.takeNode_nil node
      exact ⟨q₁, i, htake, hspare, hrest⟩
    | cons i reserved =>
      obtain ⟨q₁, htake, hspare, hallocated, hobjects⟩ := h.takeNode_reserved (some node)
      exact ⟨q₁, i, htake, hspare, hallocated, hobjects⟩
  obtain ⟨q', henqueue, hlinked, hallocated', hobjects'⟩ := hspare.enqueue o
  have hpos : 1 ≤ i := by
    have hmem : i ∈ enqueued ++ i :: reserved.tail := by simp
    rw [hspare.nodes.mem_iff, List.mem_range'_1] at hmem
    exact hmem.1
  refine ⟨q', i, ?_, hlinked, hallocated'.trans hallocated, hobjects ▸ hobjects'⟩
  rw [QueueStruct.queuePush, htake, Option.bind_eq_bind, Option.bind_some]
  dsimp only
  rw [if_pos (by omega)]
  exact henqueue

/-! ## Counting -/

theorem debugCount_eq {q : QueueStruct} {nodes : List Nat} :
    ∀ {turns pointer : Nat} {count : Int}, Chain 0 q.next pointer nodes →
      (∀ i ∈ nodes, 1 ≤ i ∧ i ≤ q.allocated) → nodes.length < turns →
      q.debugCount turns (count.bmod (2 ^ 32)) pointer =
        some ((count + nodes.length).bmod (2 ^ 32)) := by
  induction nodes with
  | nil =>
    intro turns pointer count hchain _ hturns
    obtain ⟨turns, rfl⟩ := Nat.exists_eq_succ_of_ne_zero (Nat.ne_of_gt hturns)
    rw [debugCount, if_pos (chain_nil.1 hchain)]
    simp
  | cons i nodes ih =>
    intro turns pointer count hchain hnodes hturns
    obtain ⟨rfl, hne, hrest⟩ := chain_cons.1 hchain
    obtain ⟨hi, hnodes⟩ := List.forall_mem_cons.1 hnodes
    rw [List.length_cons] at hturns ⊢
    obtain ⟨turns, rfl⟩ : ∃ n, turns = n + 1 := ⟨turns - 1, by omega⟩
    have hcount := @ih turns _ (count + 1) hrest hnodes (by omega)
    rw [debugCount, if_neg hne, node, if_pos hi, Option.bind_eq_bind, Option.bind_some,
      Int.bmod_add_bmod]
    refine hcount.trans ?_
    rw [Int.natCast_succ, Int.add_assoc, Int.add_comm 1]

section Counts

variable {q : QueueStruct} {enqueued reserved : List Nat} (h : q.Linked enqueued reserved)
include h

theorem Linked.debugQueueEnqueuedCount_eq :
    q.debugQueueEnqueuedCount = some ((enqueued.length : Int).bmod (2 ^ 32)) := by
  have hlength := h.length
  have hcount := @debugCount_eq q enqueued (q.allocated + 1) q.head 0 h.forwards
    (fun i hi => h.mem_iff.1 (List.mem_append_left _ hi)) (by omega)
  rwa [Int.zero_add] at hcount

theorem Linked.debugQueueReservedCount_eq :
    q.debugQueueReservedCount = some ((reserved.length : Int).bmod (2 ^ 32)) := by
  have hlength := h.length
  have hcount := @debugCount_eq q reserved (q.allocated + 1) q.reserved 0 h.free
    (fun i hi => h.mem_iff.1 (List.mem_append_right _ hi)) (by omega)
  rwa [Int.zero_add] at hcount

end Counts

end QueueStruct

/-! ## Runs -/

/-- A queue with what was pushed on it and popped from it, and the greatest number of objects that
were on it at one time. -/
structure QueueRun where
  queue : QueueStruct
  pushed : List Nat
  popped : List Nat
  greatest : Nat

inductive QueueOp
  /-- With what the memory of a new node holds. -/
  | push (o : Nat) (memory : QueueNode)
  | pop

namespace QueueRun

def init : QueueRun := ⟨queueCreate, [], [], 0⟩

def step (r : QueueRun) : QueueOp → Option QueueRun
  | .push o memory => (r.queue.queuePush o (some memory)).map fun queue =>
      { r with
        queue
        pushed := r.pushed ++ [o]
        greatest := max r.greatest (r.pushed.length + 1 - r.popped.length) }
  | .pop => r.queue.queuePop.map fun (o, queue) =>
      { r with queue, popped := if o = 0 then r.popped else r.popped ++ [o] }

def NonNull (_ : QueueRun) : QueueOp → Prop
  | .push o _ => o ≠ 0
  | .pop => True

/-- What was pushed is what was popped, and then what is enqueued; the chains are apart and have no
cycles, and their nodes are as many as there were objects on the queue at one time. -/
structure Fifo (r : QueueRun) : Prop where
  chains : ∃ enqueued reserved,
    Chain 0 r.queue.next r.queue.head enqueued ∧ Chain 0 r.queue.next r.queue.reserved reserved ∧
    r.pushed = r.popped ++ enqueued.map r.queue.object ∧
    enqueued.Nodup ∧ reserved.Nodup ∧ enqueued.Disjoint reserved ∧
    enqueued.length + reserved.length = r.greatest ∧
    r.queue.debugQueueEnqueuedCount = some ((enqueued.length : Int).bmod (2 ^ 32)) ∧
    r.queue.debugQueueReservedCount = some ((reserved.length : Int).bmod (2 ^ 32))
  head : r.queue.head = 0 ↔ r.queue.tail = 0
  isEmpty : r.queue.queueIsEmpty = true ↔ r.pushed = r.popped
  pop : ∃ o queue, r.queue.queuePop = some (o, queue) ∧ (o = 0 ↔ r.pushed = r.popped)

structure Kept (r : QueueRun) (enqueued reserved : List Nat) : Prop where
  linked : r.queue.Linked enqueued reserved
  pushed : r.pushed = r.popped ++ enqueued.map r.queue.object
  nonNull : ∀ o ∈ r.pushed, o ≠ 0
  greatest : r.queue.allocated = r.greatest

section Kept

variable {r : QueueRun} {enqueued reserved : List Nat} (h : r.Kept enqueued reserved)
include h

theorem Kept.pushed_eq_popped : r.pushed = r.popped ↔ enqueued = [] := by
  rw [h.pushed]
  simp

/-- What a pop returns. -/
theorem Kept.queuePop : ∃ o queue, r.queue.queuePop = some (o, queue) ∧
    (o = 0 ↔ enqueued = []) := by
  cases enqueued with
  | nil => exact ⟨0, r.queue, h.linked.queuePop_nil rfl, by simp⟩
  | cons i enqueued =>
    obtain ⟨queue, hpop, -, -, -⟩ := h.linked.queuePop
    refine ⟨_, queue, hpop, iff_of_false (h.nonNull _ ?_) (by simp)⟩
    rw [h.pushed]
    simp

theorem Kept.fifo : r.Fifo where
  chains := by
    obtain ⟨henqueued, hreserved, hdisjoint⟩ := List.nodup_append.1 h.linked.nodup
    exact ⟨enqueued, reserved, h.linked.forwards, h.linked.free, h.pushed, henqueued, hreserved,
      fun i hi hi' => hdisjoint i hi i hi' rfl, h.linked.length.trans h.greatest,
      h.linked.debugQueueEnqueuedCount_eq, h.linked.debugQueueReservedCount_eq⟩
  head := h.linked.head_eq_zero.trans h.linked.tail_eq_zero.symm
  isEmpty := by
    rw [h.pushed_eq_popped, h.linked.queueIsEmpty_eq, List.isEmpty_iff]
  pop := by
    rw [h.pushed_eq_popped]
    exact h.queuePop

theorem Kept.step (op : QueueOp) (hop : r.NonNull op) :
    ∃ r', r.step op = some r' ∧ ∃ enqueued' reserved', r'.Kept enqueued' reserved' := by
  cases op with
  | push o memory =>
    obtain ⟨queue, i, hpush, hlinked, hallocated, hobjects⟩ := h.linked.queuePush o memory
    refine ⟨_, by rw [QueueRun.step, hpush]; rfl, _, _, hlinked, ?_, ?_, ?_⟩
    · show r.pushed ++ [o] = r.popped ++ _
      rw [hobjects, h.pushed, List.append_assoc]
    · intro o' ho'
      rcases List.mem_append.1 ho' with ho' | ho'
      · exact h.nonNull o' ho'
      · rw [List.mem_singleton.1 ho']
        exact hop
    · show queue.allocated = max r.greatest (r.pushed.length + 1 - r.popped.length)
      have hlength := h.linked.length
      have hpushed := congrArg List.length h.pushed
      rw [List.length_append, List.length_map] at hpushed
      rw [hallocated, ← h.greatest, hpushed]
      -- with no node in reserve all are enqueued, and the new object is one more than ever
      cases reserved with
      | nil =>
        rw [List.length_nil] at hlength
        simp only [↓reduceIte]
        omega
      | cons i reserved =>
        rw [List.length_cons] at hlength
        simp only [reduceCtorEq, ↓reduceIte]
        omega
  | pop =>
    cases enqueued with
    | nil =>
      refine ⟨_, by rw [QueueRun.step, h.linked.queuePop_nil rfl]; rfl, [], reserved, ?_⟩
      exact ⟨h.linked, h.pushed, h.nonNull, h.greatest⟩
    | cons i enqueued =>
      obtain ⟨queue, hpop, hlinked, hallocated, hobjects⟩ := h.linked.queuePop
      have hnonNull : r.queue.object i ≠ 0 := h.nonNull _ (by rw [h.pushed]; simp)
      have hstep : r.step .pop =
          some { r with queue, popped := r.popped ++ [r.queue.object i] } := by
        simp only [QueueRun.step, hpop, Option.map_some, if_neg hnonNull]
      refine ⟨_, hstep, enqueued, i :: reserved, hlinked, ?_, h.nonNull,
        hallocated.trans h.greatest⟩
      show r.pushed = r.popped ++ [r.queue.object i] ++ enqueued.map queue.object
      rw [hobjects, h.pushed, List.append_assoc]
      rfl

end Kept

end QueueRun

/-- **A queue is a FIFO** and keeps its nodes, in every run of pushes of objects and pops. -/
theorem queue_fifo (ops : List QueueOp) (hops : ∀ o memory, .push o memory ∈ ops → o ≠ 0) :
    ∃ r, run QueueRun.step QueueRun.init ops = some r ∧ r.Fifo := by
  have hkept : QueueRun.init.Kept [] [] := ⟨QueueStruct.linked_create, rfl, by simp [QueueRun.init],
    rfl⟩
  have hnonNull : Along QueueRun.step QueueRun.NonNull QueueRun.init ops := by
    refine along_of_forall (fun r op hop => ?_) _
    cases op with
    | push o memory => exact hops o memory hop
    | pop => trivial
  obtain ⟨r, hr, enqueued, reserved, h⟩ := run_along_safe
    (P := fun r : QueueRun => ∃ enqueued reserved, r.Kept enqueued reserved) ⟨[], [], hkept⟩
    (fun r op ⟨_, _, h⟩ hop => h.step op hop) hnonNull
  exact ⟨r, hr, h.fifo⟩

/-- Two pushes, three pops and a push, which takes a node again. -/
theorem queue_fifo_recycled : ∃ r,
    run QueueRun.step QueueRun.init
      [.push 7 ⟨0, 3⟩, .push 8 ⟨9, 9⟩, .pop, .pop, .pop, .push 5 ⟨1, 1⟩] = some r ∧ r.Fifo :=
  queue_fifo _ (by simp; omega)

end UniversalNetwork
