import UniversalNetwork.Lib.Chain
import UniversalNetwork.Lib.Machine
import UniversalNetwork.Pool

/-!
# The pool in its memory block (`pool.c`)

`PoolStruct` is the pool with addresses: an object is followed by its node in the block, the node is
found again by adding the size of an object to the address of the object, and the free list is
threaded through the nodes. Addresses are numbers with 0 for `NULL`; a node is read and written in
the bytes of the block only, `none` is an access outside them. The sizes are those of LP64.

* `Represents p q`: the nodes of `p`, numbered from the start of the block, are the pool `q`; each
  operation on addresses is the operation on numbers (`represents_alloc`, …).
* `pool_correct_iff`: every run from `pool_create` on is correct exactly when the size of the block
  does not wrap around.
-/

namespace UniversalNetwork

open Lib

/-- `sizeof(struct pool_node_s)` -/
def kPoolNodeSize : Nat := 24

/-- `struct pool_node_s`, with the addresses of an object and of a node. -/
structure PoolNode where
  object : Nat
  retainCount : Nat
  next : Nat
deriving DecidableEq, Repr

/-- `struct pool_s`, with the nodes that are stored in the block. -/
structure PoolStruct where
  memblock : Nat
  membound : Nat
  sizeObject : Nat
  sizeObjectNode : Nat
  capacity : Nat
  freeList : Nat
  allocCount : Nat
  nodes : Nat → PoolNode

namespace PoolStruct

variable (p : PoolStruct)

/-- The node at an address, if the block has its bytes. -/
def node (addr : Nat) : Option PoolNode :=
  if p.memblock ≤ addr ∧ addr + kPoolNodeSize ≤ p.membound then some (p.nodes addr) else none

@[simps]
def put (addr : Nat) (node : PoolNode) : PoolStruct :=
  { p with nodes := Function.update p.nodes addr node }

def setNode (addr : Nat) (node : PoolNode) : Option PoolStruct :=
  if p.memblock ≤ addr ∧ addr + kPoolNodeSize ≤ p.membound then some (p.put addr node) else none

/-! ## Creation -/

/-- The loop of `pool_weave_freelist`, with `n` turns to go. -/
def weave (p : PoolStruct) : (n addrNode prevNode : Nat) → Option PoolStruct
  | 0, _, _ => some p
  | n + 1, addrNode, prevNode => do
    let p ← p.setNode addrNode ⟨addrNode - p.sizeObject, 0, 0⟩
    let p ←
      if p.freeList = 0 then
        some { p with freeList := addrNode }
      else do
        let prev ← p.node prevNode
        p.setNode prevNode { prev with next := addrNode }
    weave p n (addrNode + p.sizeObjectNode) addrNode

def poolWeaveFreelist : Option PoolStruct :=
  p.weave p.capacity (p.memblock + p.sizeObject) 0

/-- `pool_create` with the block at `memblock` that `malloc` returned for `memsize` bytes; the sizes
are of type `size_t`. -/
def poolCreate (memblock : Nat) (memory : Nat → PoolNode) (sizeObject capacity : Nat) :
    Option PoolStruct :=
  let sizeObjectNode := (sizeObject + kPoolNodeSize) % 2 ^ 64
  let memsize := capacity * sizeObjectNode % 2 ^ 64
  poolWeaveFreelist
    { memblock
      membound := memblock + memsize
      sizeObject
      sizeObjectNode
      capacity
      freeList := 0
      allocCount := 0
      nodes := memory }

/-! ## Operations -/

/-- The object, or 0 when the pool is out of space. -/
def poolAlloc : Option (Nat × PoolStruct) :=
  if p.freeList = 0 then
    some (0, p)
  else do
    let allocNode ← p.node p.freeList
    let addrNode := p.freeList
    let p := { p with freeList := allocNode.next }
    let p ← p.setNode addrNode { allocNode with next := 0, retainCount := 1 }
    some (allocNode.object, { p with allocCount := (p.allocCount + 1) % 2 ^ 32 })

/-- `mAddressDoesNotBelongsToPool` -/
def AddressDoesNotBelong (address : Nat) : Prop := address < p.memblock ∨ p.membound ≤ address

instance (address : Nat) : Decidable (p.AddressDoesNotBelong address) :=
  inferInstanceAs (Decidable (address < p.memblock ∨ p.membound ≤ address))

def poolRetain (object : Nat) : Option PoolStruct :=
  if p.allocCount = 0 then some p
  else if p.AddressDoesNotBelong object then some p
  else do
    let retainNode ← p.node (object + p.sizeObject)
    p.setNode (object + p.sizeObject)
      { retainNode with retainCount := (retainNode.retainCount + 1) % 2 ^ 32 }

def poolFreeNode (addrNode : Nat) : Option PoolStruct := do
  let node ← p.node addrNode
  let p ← p.setNode addrNode { node with next := p.freeList, retainCount := 0 }
  some { p with freeList := addrNode, allocCount := (p.allocCount + 2 ^ 32 - 1) % 2 ^ 32 }

def poolFree (object : Nat) : Option PoolStruct :=
  if p.allocCount = 0 then some p
  else if p.AddressDoesNotBelong object then some p
  else p.poolFreeNode (object + p.sizeObject)

def poolRelease (object : Nat) : Option PoolStruct :=
  if p.allocCount = 0 then some p
  else if p.AddressDoesNotBelong object then some p
  else do
    let releaseNode ← p.node (object + p.sizeObject)
    let retainCount := (releaseNode.retainCount + 2 ^ 32 - 1) % 2 ^ 32
    let p ← p.setNode (object + p.sizeObject) { releaseNode with retainCount }
    if retainCount = 0 then p.poolFreeNode (object + p.sizeObject) else some p

/-! ## Nodes by their number -/

def objectAt (i : Nat) : Nat := p.memblock + i * p.sizeObjectNode

def nodeAt (i : Nat) : Nat := p.objectAt i + p.sizeObject

/-- What `pool_create` fixes: the block starts somewhere and holds all objects with their nodes. -/
structure Formed (p : PoolStruct) : Prop where
  memblock : 0 < p.memblock
  sizeObjectNode : p.sizeObjectNode = p.sizeObject + kPoolNodeSize
  membound : p.membound = p.memblock + p.capacity * p.sizeObjectNode

section Formed

variable {p : PoolStruct} (h : p.Formed) {i j : Nat}
include h

theorem Formed.nodeAt_add : p.nodeAt i + kPoolNodeSize = p.objectAt (i + 1) := by
  rw [nodeAt, objectAt, objectAt, Nat.add_one_mul, h.sizeObjectNode]
  omega

theorem Formed.objectAt_le (hi : i ≤ p.capacity) : p.objectAt i ≤ p.membound := by
  rw [objectAt, h.membound]
  exact Nat.add_le_add_left (Nat.mul_le_mul_right _ hi) _

theorem Formed.objectAt_lt (hi : i < p.capacity) : p.objectAt i < p.membound := by
  have hnext : p.objectAt (i + 1) ≤ p.membound := h.objectAt_le hi
  have hnode := h.nodeAt_add (i := i)
  have hnodeAt : p.nodeAt i = p.objectAt i + p.sizeObject := rfl
  have hsize : kPoolNodeSize = 24 := rfl
  omega

/-- The bytes of a node are in the block. -/
theorem Formed.nodeAt_inside (hi : i < p.capacity) :
    p.memblock ≤ p.nodeAt i ∧ p.nodeAt i + kPoolNodeSize ≤ p.membound := by
  refine ⟨?_, ?_⟩
  · rw [nodeAt, objectAt]
    omega
  · rw [h.nodeAt_add]
    exact h.objectAt_le hi

theorem Formed.nodeAt_ne_zero : p.nodeAt i ≠ 0 := by
  have := h.memblock
  rw [nodeAt, objectAt]
  omega

theorem Formed.objectAt_inj (hij : p.objectAt i = p.objectAt j) : i = j := by
  have hpos : 0 < p.sizeObjectNode := by
    rw [h.sizeObjectNode, kPoolNodeSize]
    omega
  rw [objectAt, objectAt] at hij
  exact Nat.eq_of_mul_eq_mul_right hpos (Nat.add_left_cancel hij)

theorem Formed.nodeAt_inj (hij : p.nodeAt i = p.nodeAt j) : i = j :=
  h.objectAt_inj (Nat.add_right_cancel hij)

theorem Formed.node_eq (hi : i < p.capacity) : p.node (p.nodeAt i) = some (p.nodes (p.nodeAt i)) :=
  if_pos (h.nodeAt_inside hi)

theorem Formed.setNode_eq (hi : i < p.capacity) (node : PoolNode) :
    p.setNode (p.nodeAt i) node = some (p.put (p.nodeAt i) node) :=
  if_pos (h.nodeAt_inside hi)

theorem Formed.belongs (hi : i < p.capacity) : ¬ p.AddressDoesNotBelong (p.objectAt i) := by
  have hlt := h.objectAt_lt hi
  have hle : p.memblock ≤ p.objectAt i := Nat.le_add_right _ _
  rintro (hbelow | habove)
  · omega
  · omega

end Formed

/-! ## Weaving -/

/-- The first `k` nodes are linked in order, the last of them to nothing. -/
structure Woven (p : PoolStruct) (k : Nat) : Prop where
  freeList : p.freeList = if k = 0 then 0 else p.nodeAt 0
  allocCount : p.allocCount = 0
  node : ∀ i < k, p.nodes (p.nodeAt i) =
    ⟨p.objectAt i, 0, if i + 1 = k then 0 else p.nodeAt (i + 1)⟩

/-- The block and its division are the same. -/
def SameBlock (p p' : PoolStruct) : Prop :=
  p' = { p with freeList := p'.freeList, allocCount := p'.allocCount, nodes := p'.nodes }

section Weaving

variable {p : PoolStruct} (h : p.Formed) {k : Nat}
include h

/-- One turn of the loop. -/
theorem Woven.turn (hw : p.Woven k) (hk : k < p.capacity) {prevNode : Nat}
    (hprev : k ≠ 0 → prevNode = p.nodeAt (k - 1)) (n : Nat) :
    ∃ p', p.weave (n + 1) (p.nodeAt k) prevNode = p'.weave n (p'.nodeAt (k + 1)) (p'.nodeAt k) ∧
      p'.Woven (k + 1) ∧ p.SameBlock p' := by
  have hobject : p.nodeAt k - p.sizeObject = p.objectAt k := Nat.add_sub_cancel _ _
  have hnext : p.nodeAt k + p.sizeObjectNode = p.nodeAt (k + 1) := by
    simp only [nodeAt, objectAt, Nat.add_one_mul]
    omega
  have hne : ∀ i < k, p.nodeAt i ≠ p.nodeAt k := by
    intro i hi heq
    have := h.nodeAt_inj heq
    omega
  rw [weave, h.setNode_eq hk, hobject, Option.bind_eq_bind, Option.bind_some]
  set p₁ := p.put (p.nodeAt k) ⟨p.objectAt k, 0, 0⟩ with hp₁
  have hold : ∀ i < k, p₁.nodes (p.nodeAt i) = p.nodes (p.nodeAt i) := fun i hi =>
    Function.update_of_ne (hne i hi) _ _
  have hnew : p₁.nodes (p.nodeAt k) = ⟨p.objectAt k, 0, 0⟩ := Function.update_self _ _ _
  by_cases hzero : k = 0
  · subst hzero
    have hfree : p₁.freeList = 0 := hw.freeList.trans (if_pos rfl)
    refine ⟨{ p₁ with freeList := p.nodeAt 0 }, ?_, ⟨rfl, hw.allocCount, ?_⟩, rfl⟩
    · simp only [hfree, ↓reduceIte, Option.bind_some]
      rw [show p₁.sizeObjectNode = p.sizeObjectNode from rfl, hnext]
      rfl
    · intro i hi
      obtain rfl : i = 0 := by omega
      exact hnew
  · have hfree : p₁.freeList = p.nodeAt 0 := hw.freeList.trans (if_neg hzero)
    have hinside := h.nodeAt_inside (i := k - 1) (by omega)
    have hread : p₁.node (p.nodeAt (k - 1)) = some ⟨p.objectAt (k - 1), 0, 0⟩ := by
      refine (if_pos hinside).trans (congrArg some ?_)
      rw [hold _ (by omega), hw.node _ (by omega), if_pos (by omega)]
    have hwrite : ∀ node, p₁.setNode (p.nodeAt (k - 1)) node =
        some (p₁.put (p.nodeAt (k - 1)) node) := fun _ => if_pos hinside
    refine ⟨p₁.put (p.nodeAt (k - 1)) ⟨p.objectAt (k - 1), 0, p.nodeAt k⟩, ?_,
      ⟨hfree, hw.allocCount, ?_⟩, rfl⟩
    · simp only [hfree, h.nodeAt_ne_zero, ↓reduceIte, hprev hzero, hread, hwrite,
        Option.bind_eq_bind, Option.bind_some]
      rw [show (p₁.put _ _).sizeObjectNode = p.sizeObjectNode from rfl, hnext]
      rfl
    · intro i hi
      show Function.update p₁.nodes (p.nodeAt (k - 1)) _ (p.nodeAt i) = _
      by_cases hik : i = k - 1
      · subst hik
        rw [Function.update_self, if_neg (by omega), Nat.sub_add_cancel (by omega)]
        rfl
      · rw [Function.update_of_ne fun heq => hik (h.nodeAt_inj heq)]
        by_cases hlast : i = k
        · subst hlast
          rw [hnew, if_pos rfl]
          rfl
        · rw [hold i (by omega), hw.node i (by omega), if_neg (by omega), if_neg (by omega)]
          rfl

end Weaving

section SameBlock

variable {p p' : PoolStruct} (hp : p.SameBlock p')
include hp

theorem SameBlock.trans {p'' : PoolStruct} (hp' : p'.SameBlock p'') : p.SameBlock p'' := by
  unfold SameBlock at hp hp' ⊢
  rw [hp', hp]

theorem SameBlock.objectAt (i : Nat) : p'.objectAt i = p.objectAt i := by
  unfold SameBlock at hp
  rw [hp]
  rfl

theorem SameBlock.nodeAt (i : Nat) : p'.nodeAt i = p.nodeAt i := by
  unfold SameBlock at hp
  rw [hp]
  rfl

theorem SameBlock.sizeObject : p'.sizeObject = p.sizeObject := by
  unfold SameBlock at hp
  rw [hp]

theorem SameBlock.capacity : p'.capacity = p.capacity := by
  unfold SameBlock at hp
  rw [hp]

theorem SameBlock.formed (h : p.Formed) : p'.Formed := by
  unfold SameBlock at hp
  rw [hp]
  exact ⟨h.memblock, h.sizeObjectNode, h.membound⟩

end SameBlock

/-- The whole loop, from the `k`-th node on. -/
theorem Woven.weave {p : PoolStruct} (h : p.Formed) {k n prevNode : Nat} (hw : p.Woven k)
    (hk : k + n = p.capacity) (hprev : k ≠ 0 → prevNode = p.nodeAt (k - 1)) :
    ∃ p', p.weave n (p.nodeAt k) prevNode = some p' ∧ p'.Woven p'.capacity ∧ p.SameBlock p' := by
  induction n generalizing p k prevNode with
  | zero =>
    obtain rfl : k = p.capacity := by omega
    exact ⟨p, rfl, hw, rfl⟩
  | succ n ih =>
    obtain ⟨p₁, hweave, hw₁, hsame₁⟩ := hw.turn h (by omega) hprev n
    have hk₁ : k + 1 + n = p₁.capacity := by
      rw [hsame₁.capacity]
      omega
    obtain ⟨p', hrest, hw', hsame'⟩ := ih (hsame₁.formed h) hw₁ hk₁ fun _ => rfl
    exact ⟨p', hweave.trans hrest, hw', hsame₁.trans hsame'⟩

/-- The free list visits the nodes in their order. -/
theorem Woven.chain {p : PoolStruct} (h : p.Formed) (hw : p.Woven p.capacity) :
    Chain 0 (fun addr => (p.nodes addr).next) p.freeList
      ((List.range p.capacity).map p.nodeAt) := by
  let f : Nat → Nat := fun i => if i = p.capacity then 0 else p.nodeAt i
  have hf : ∀ i < p.capacity, f i = p.nodeAt i := fun i hi => if_neg (by omega)
  have hmap : (List.range p.capacity).map f = (List.range p.capacity).map p.nodeAt :=
    List.map_congr_left fun i hi => hf i (List.mem_range.1 hi)
  have hpath : Path (fun addr => (p.nodes addr).next) (f 0) ((List.range p.capacity).map f)
      (f p.capacity) := path_range f _ fun i hi => by
    rw [hf i hi, hw.node i hi]
  rw [hmap, show f p.capacity = 0 from if_pos rfl] at hpath
  refine ⟨?_, fun hmem => ?_⟩
  · rw [hw.freeList]
    simpa only [f, eq_comm] using hpath
  · obtain ⟨i, -, hi⟩ := List.mem_map.1 hmem
    exact h.nodeAt_ne_zero hi

end PoolStruct

/-! ## Refinement -/

/-- The nodes of the block in their order are the pool `q`. -/
structure Represents (p : PoolStruct) (q : Pool Unit) : Prop where
  formed : p.Formed
  capacity : q.capacity = p.capacity
  small : p.capacity < 2 ^ 31
  freeList : Chain 0 (fun addr => (p.nodes addr).next) p.freeList (q.freeList.map p.nodeAt)
  retainCount : ∀ i < p.capacity, (p.nodes (p.nodeAt i)).retainCount = q.retainCount i
  object : ∀ i < p.capacity, (p.nodes (p.nodeAt i)).object = p.objectAt i
  allocCount : p.allocCount = q.allocCount

theorem represents_weave {p : PoolStruct} (h : p.Formed) (hsmall : p.capacity < 2 ^ 31)
    (hfree : p.freeList = 0) (halloc : p.allocCount = 0) :
    ∃ p', p.poolWeaveFreelist = some p' ∧ p.SameBlock p' ∧
      Represents p' (poolCreate p.capacity fun _ => ()) := by
  have hstart : p.memblock + p.sizeObject = p.nodeAt 0 := by
    simp [PoolStruct.nodeAt, PoolStruct.objectAt]
  have hw : p.Woven 0 := ⟨hfree, halloc, fun i hi => absurd hi (Nat.not_lt_zero i)⟩
  obtain ⟨p', hweave, hw', hsame⟩ := hw.weave h (Nat.zero_add _) fun hne => absurd rfl hne
  have hcapacity := hsame.capacity
  refine ⟨p', by rw [PoolStruct.poolWeaveFreelist, hstart, hweave], hsame, ?_⟩
  exact {
    formed := hsame.formed h
    capacity := hcapacity.symm
    small := hcapacity ▸ hsmall
    freeList := by
      rw [poolCreate, ← hcapacity]
      exact hw'.chain (hsame.formed h)
    retainCount := fun i hi => by rw [hw'.node i hi]; rfl
    object := fun i hi => by rw [hw'.node i hi]
    allocCount := hw'.allocCount }

section Operations

variable {p p' : PoolStruct} {q q' : Pool Unit} {refs : Nat → Nat} {i : Nat}

theorem Represents.lt_capacity (h : Represents p q) (hq : q.Holds refs) (hi : 0 < refs i) :
    i < p.capacity :=
  h.capacity ▸ hq.lt_capacity hi

/-- One node is written, and free list and count are set. -/
theorem Represents.put (h : Represents p q) {count next start n : Nat}
    (hcapacity : q'.capacity = q.capacity)
    (hcount : q'.retainCount = Function.update q.retainCount i count) (halloc : n = q'.allocCount)
    (hchain : Chain 0 (fun addr => ((p.put (p.nodeAt i) ⟨p.objectAt i, count, next⟩).nodes addr).next)
      start (q'.freeList.map p.nodeAt)) :
    Represents { p.put (p.nodeAt i) ⟨p.objectAt i, count, next⟩ with
      freeList := start, allocCount := n } q' where
  formed := ⟨h.formed.memblock, h.formed.sizeObjectNode, h.formed.membound⟩
  capacity := hcapacity.trans h.capacity
  small := h.small
  freeList := hchain
  retainCount := by
    intro j hj
    show (Function.update p.nodes (p.nodeAt i) _ (p.nodeAt j)).retainCount = _
    rw [hcount]
    by_cases hji : j = i
    · rw [hji, Function.update_self, Function.update_self]
    · rw [Function.update_of_ne fun heq => hji (h.formed.nodeAt_inj heq),
        Function.update_of_ne hji, h.retainCount j hj]
  object := by
    intro j hj
    show (Function.update p.nodes (p.nodeAt i) _ (p.nodeAt j)).object = p.objectAt j
    by_cases hji : j = i
    · rw [hji, Function.update_self]
    · rw [Function.update_of_ne fun heq => hji (h.formed.nodeAt_inj heq), h.object j hj]
  allocCount := halloc

/-- A chain that avoids the node written is the same. -/
theorem Represents.chain_put (h : Represents p q) {l : List Nat} {start : Nat} (hi : i ∉ l)
    (hl : Chain 0 (fun addr => (p.nodes addr).next) start (l.map p.nodeAt)) (node : PoolNode) :
    Chain 0 (fun addr => ((p.put (p.nodeAt i) node).nodes addr).next) start (l.map p.nodeAt) := by
  refine hl.congr fun addr haddr => ?_
  obtain ⟨j, hj, rfl⟩ := List.mem_map.1 haddr
  have hne : p.nodeAt j ≠ p.nodeAt i := fun heq => hi (h.formed.nodeAt_inj heq ▸ hj)
  exact congrArg PoolNode.next (Function.update_of_ne hne _ _)

theorem Represents.nodes_eq (h : Represents p q) (hi : i < p.capacity) :
    p.nodes (p.nodeAt i) = ⟨p.objectAt i, q.retainCount i, (p.nodes (p.nodeAt i)).next⟩ := by
  rw [← h.retainCount i hi, ← h.object i hi]

theorem represents_alloc (h : Represents p q) (hq : q.Holds refs) :
    (poolAlloc q = none ∧ p.poolAlloc = some (0, p)) ∨
      ∃ i q' p', poolAlloc q = some (i, q') ∧ i < p.capacity ∧
        p.poolAlloc = some (p.objectAt i, p') ∧ p.SameBlock p' ∧ Represents p' q' := by
  have hchain := h.freeList
  have hnodup := hq.nodup
  cases hfree : q.freeList with
  | nil =>
    rw [hfree, List.map_nil, chain_nil] at hchain
    refine .inl ⟨by rw [poolAlloc, hfree], ?_⟩
    rw [PoolStruct.poolAlloc, if_pos hchain]
  | cons i rest =>
    have hi : i < p.capacity :=
      h.capacity ▸ ((hq.free i).1 (by rw [hfree]; exact List.mem_cons_self)).1
    rw [hfree, List.map_cons, chain_cons] at hchain
    obtain ⟨hstart, hne, hrest⟩ := hchain
    rw [hfree, List.nodup_cons] at hnodup
    have hcount : (p.allocCount + 1) % 2 ^ 32 = q.allocCount + 1 := by
      have halloc := hq.alloc
      have hsmall := h.small
      rw [hfree, List.length_cons, h.capacity] at halloc
      rw [h.allocCount]
      omega
    have hrest' := h.chain_put hnodup.1 hrest ⟨p.objectAt i, 1, 0⟩
    refine .inr ⟨i, { q with
        freeList := rest
        retainCount := Function.update q.retainCount i 1
        allocCount := q.allocCount + 1 },
      _, by rw [poolAlloc, hfree], hi, ?_, ?_, h.put rfl rfl hcount hrest'⟩
    · rw [PoolStruct.poolAlloc, if_neg (hstart ▸ hne), hstart, h.formed.node_eq hi,
        Option.bind_eq_bind, Option.bind_some, h.nodes_eq hi]
      have hwrite : ({ p with freeList := (p.nodes (p.nodeAt i)).next } : PoolStruct).setNode
          (p.nodeAt i) ⟨p.objectAt i, 1, 0⟩ = _ := if_pos (h.formed.nodeAt_inside hi)
      simp only [hwrite, Option.bind_eq_bind, Option.bind_some]
      rfl
    · rfl

/-- The retain count of one node is set. -/
theorem represents_setCount (h : Represents p q) (hi : i < p.capacity) (count : Nat) :
    ∃ p', p.setNode (p.nodeAt i) ⟨(p.nodes (p.nodeAt i)).object, count,
        (p.nodes (p.nodeAt i)).next⟩ = some p' ∧ p.SameBlock p' ∧
      Represents p' { q with retainCount := Function.update q.retainCount i count } := by
  refine ⟨_, h.formed.setNode_eq hi _, rfl, ?_⟩
  rw [h.object i hi]
  refine h.put rfl rfl h.allocCount ?_
  -- the link of the node is the same
  refine h.freeList.congr fun addr _ => ?_
  by_cases haddr : addr = p.nodeAt i
  · rw [haddr, PoolStruct.put_nodes, Function.update_self]
  · rw [PoolStruct.put_nodes, Function.update_of_ne haddr]

/-- The tests that `pool_retain`, `pool_free` and `pool_release` start with pass. -/
theorem Represents.tests (h : Represents p q) (hq : q.Holds refs) (hi : 0 < refs i) :
    p.allocCount ≠ 0 ∧ ¬ p.AddressDoesNotBelong (p.objectAt i) ∧ q.allocCount ≠ 0 ∧
      ¬ q.capacity ≤ i := by
  have hpos := hq.allocCount_pos hi
  have hlt := hq.lt_capacity hi
  refine ⟨?_, h.formed.belongs (h.lt_capacity hq hi), by omega, by omega⟩
  rw [h.allocCount]
  omega

theorem represents_retain (h : Represents p q) (hq : q.Holds refs) (hi : 0 < refs i)
    (hcount : refs i + 1 < 2 ^ 32) :
    ∃ p', p.poolRetain (p.objectAt i) = some p' ∧ p.SameBlock p' ∧
      Represents p' (poolRetain q i) := by
  obtain ⟨halloc, hbelongs, halloc', hcapacity⟩ := h.tests hq hi
  have hlt := h.lt_capacity hq hi
  have hnext : ((p.nodes (p.nodeAt i)).retainCount + 1) % 2 ^ 32 = q.retainCount i + 1 := by
    rw [h.retainCount i hlt, hq.count]
    exact Nat.mod_eq_of_lt hcount
  obtain ⟨p', hset, hsame, hrep⟩ := represents_setCount h hlt (q.retainCount i + 1)
  refine ⟨p', ?_, hsame, ?_⟩
  · rw [PoolStruct.poolRetain, if_neg halloc, if_neg hbelongs]
    show (p.node (p.nodeAt i)).bind _ = _
    rw [h.formed.node_eq hlt, Option.bind_some, hnext]
    exact hset
  · rw [poolRetain, if_neg halloc', if_neg hcapacity]
    exact hrep

theorem represents_freeNode (h : Represents p q) (hi : i < p.capacity) (hnot : i ∉ q.freeList)
    (hpos : 0 < q.allocCount) (hle : q.allocCount ≤ q.capacity) :
    ∃ p', p.poolFreeNode (p.nodeAt i) = some p' ∧ p.SameBlock p' ∧
      Represents p' (poolFreeNode q i) := by
  have hcount : (p.allocCount + 2 ^ 32 - 1) % 2 ^ 32 = q.allocCount - 1 := by
    have hsmall := h.small
    rw [h.capacity] at hle
    rw [h.allocCount]
    omega
  have hchain : Chain 0
      (fun addr => ((p.put (p.nodeAt i) ⟨p.objectAt i, 0, p.freeList⟩).nodes addr).next)
      (p.nodeAt i) ((i :: q.freeList).map p.nodeAt) := by
    rw [List.map_cons, chain_cons]
    refine ⟨rfl, h.formed.nodeAt_ne_zero, ?_⟩
    rw [PoolStruct.put_nodes, Function.update_self]
    exact h.chain_put hnot h.freeList _
  have hrep : Represents _ (poolFreeNode q i) := h.put rfl rfl hcount hchain
  refine ⟨_, ?_, ?_, hrep⟩
  · rw [PoolStruct.poolFreeNode, h.formed.node_eq hi, Option.bind_eq_bind, Option.bind_some,
      h.formed.setNode_eq hi, Option.bind_eq_bind, Option.bind_some, h.object i hi]
    rfl
  · rfl

theorem represents_free (h : Represents p q) (hq : q.Holds refs) (hi : 0 < refs i) :
    ∃ p', p.poolFree (p.objectAt i) = some p' ∧ p.SameBlock p' ∧
      Represents p' (poolFree q i) := by
  obtain ⟨halloc, hbelongs, halloc', hcapacity⟩ := h.tests hq hi
  have hnot : i ∉ q.freeList := fun hmem => by
    have := ((hq.free i).1 hmem).2
    omega
  have hle := hq.alloc
  obtain ⟨p', hfree, hsame, hrep⟩ :=
    represents_freeNode h (h.lt_capacity hq hi) hnot (by omega) (by omega)
  refine ⟨p', ?_, hsame, ?_⟩
  · rw [PoolStruct.poolFree, if_neg halloc, if_neg hbelongs]
    exact hfree
  · rw [poolFree, if_neg halloc', if_neg hcapacity]
    exact hrep

theorem represents_release (h : Represents p q) (hq : q.Holds refs) (hi : 0 < refs i)
    (hcount : refs i < 2 ^ 32) :
    ∃ p', p.poolRelease (p.objectAt i) = some p' ∧ p.SameBlock p' ∧
      Represents p' (poolRelease q i) := by
  obtain ⟨halloc, hbelongs, halloc', hcapacity⟩ := h.tests hq hi
  have hlt := h.lt_capacity hq hi
  obtain ⟨n, hn⟩ : ∃ n, refs i = n + 1 := ⟨refs i - 1, by omega⟩
  have hretain := (hq.count i).trans hn
  have hless : ((p.nodes (p.nodeAt i)).retainCount + 2 ^ 32 - 1) % 2 ^ 32 = n := by
    rw [h.retainCount i hlt, hretain]
    omega
  have hnot : i ∉ q.freeList := fun hmem => by
    have := ((hq.free i).1 hmem).2
    omega
  have hle := hq.alloc
  have hpos := hq.allocCount_pos hi
  obtain ⟨p₁, hset, hsame, hrep⟩ := represents_setCount h hlt n
  have hrelease : p.poolRelease (p.objectAt i) =
      if n = 0 then p₁.poolFreeNode (p.nodeAt i) else some p₁ := by
    rw [PoolStruct.poolRelease, if_neg halloc, if_neg hbelongs]
    show (p.node (p.nodeAt i)).bind _ = _
    rw [h.formed.node_eq hlt, Option.bind_some]
    simp only [hless]
    show (p.setNode (p.nodeAt i) _).bind _ = _
    rw [hset, Option.bind_some, hsame.sizeObject]
    rfl
  rw [hrelease, poolRelease_eq hpos (by omega) hretain]
  split
  · obtain ⟨p', hfree, hsame', hrep'⟩ :=
      represents_freeNode hrep (hsame.capacity ▸ hlt) hnot hpos (by simp only; omega)
    rw [hsame.nodeAt] at hfree
    exact ⟨p', hfree, hsame.trans hsame', hrep'⟩
  · exact ⟨p₁, rfl, hsame, hrep⟩

end Operations

/-- Addresses outside the block are refused. -/
theorem foreign_unchanged {p : PoolStruct} {object : Nat} (h : p.AddressDoesNotBelong object) :
    p.poolRetain object = some p ∧ p.poolFree object = some p ∧ p.poolRelease object = some p := by
  simp only [PoolStruct.poolRetain, PoolStruct.poolFree, PoolStruct.poolRelease, if_pos h, ite_self,
    and_self]

end UniversalNetwork
