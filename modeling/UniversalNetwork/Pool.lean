import Mathlib.Algebra.Ring.Int.Defs
import Mathlib.Algebra.Ring.Nat
import Mathlib.Data.List.Perm.Subperm
import Mathlib.Logic.Function.Basic
import Mathlib.Tactic.Common

/-!
# The object pool (`pool.h`, `pool.c`)

Nodes are numbered from the start of the memory block, the free list is the chain of `next`
pointers from `freeList` on. `Pool.Holds p refs`: node `i` is referenced `refs i` times, the retain
counts say so, and the free list is the nodes nobody references. Each operation has one rule:

* `poolAlloc_holds`: a fresh reference to a node nobody had.
* `poolRetain_holds`, `poolRelease_holds`: one reference more, one less, by someone who has one.
* `poolFree_holds`: no reference any more.
-/

namespace UniversalNetwork

structure Pool (α : Type) where
  capacity : Nat
  freeList : List Nat
  retainCount : Nat → Nat
  allocCount : Nat
  objects : Nat → α

variable {α : Type}

/-- `malloc` of the block, then `pool_weave_freelist`. -/
def poolCreate (capacity : Nat) (memory : Nat → α) : Pool α where
  capacity
  freeList := List.range capacity
  retainCount := fun _ => 0
  allocCount := 0
  objects := memory

def poolAlloc (p : Pool α) : Option (Nat × Pool α) :=
  match p.freeList with
  | [] => none
  | allocNode :: next => some (allocNode, { p with
      freeList := next
      retainCount := Function.update p.retainCount allocNode 1
      allocCount := p.allocCount + 1 })

def poolRetain (p : Pool α) (object : Nat) : Pool α :=
  if p.allocCount = 0 then p
  else if p.capacity ≤ object then p
  else { p with
    retainCount := Function.update p.retainCount object (p.retainCount object + 1) }

def poolFreeNode (p : Pool α) (node : Nat) : Pool α :=
  { p with
    freeList := node :: p.freeList
    retainCount := Function.update p.retainCount node 0
    allocCount := p.allocCount - 1 }

def poolFree (p : Pool α) (object : Nat) : Pool α :=
  if p.allocCount = 0 then p
  else if p.capacity ≤ object then p
  else poolFreeNode p object

/-- The decrement of an `unsigned int`. -/
def poolRelease (p : Pool α) (object : Nat) : Pool α :=
  if p.allocCount = 0 then p
  else if p.capacity ≤ object then p
  else
    let count := if p.retainCount object = 0 then 2 ^ 32 - 1 else p.retainCount object - 1
    let p := { p with retainCount := Function.update p.retainCount object count }
    if count = 0 then poolFreeNode p object else p

/-- A write to the object of a node. -/
def Pool.setObject (p : Pool α) (object : Nat) (x : α) : Pool α :=
  { p with objects := Function.update p.objects object x }

/-! ## References -/

structure Pool.Holds (p : Pool α) (refs : Nat → Nat) : Prop where
  nodup : p.freeList.Nodup
  bound : ∀ i, p.capacity ≤ i → refs i = 0
  count : ∀ i, p.retainCount i = refs i
  free : ∀ i, i ∈ p.freeList ↔ i < p.capacity ∧ refs i = 0
  alloc : p.allocCount + p.freeList.length = p.capacity

theorem poolCreate_holds (capacity : Nat) (memory : Nat → α) :
    (poolCreate capacity memory).Holds fun _ => 0 where
  nodup := List.nodup_range
  bound := fun _ _ => rfl
  count := fun _ => rfl
  free := fun i => by simp [poolCreate]
  alloc := by simp [poolCreate]

section Rules

variable {p p' : Pool α} {refs refs' : Nat → Nat} {i : Nat}

theorem Pool.Holds.congr (h : p.Holds refs) (heq : ∀ j, refs' j = refs j) : p.Holds refs' := by
  rwa [funext heq]

theorem Pool.Holds.setObject (h : p.Holds refs) (x : α) : (p.setObject i x).Holds refs :=
  ⟨h.nodup, h.bound, h.count, h.free, h.alloc⟩

/-- The free list is shorter than the pool while a node is referenced. -/
theorem Pool.Holds.allocCount_pos (h : p.Holds refs) (hi : 0 < refs i) : 0 < p.allocCount := by
  have hlt : i < p.capacity := by
    by_contra hge
    have := h.bound i (by omega)
    omega
  have hnot : i ∉ p.freeList := fun hmem => by
    have := ((h.free i).1 hmem).2
    omega
  have hsub : i :: p.freeList ⊆ List.range p.capacity := by
    intro j hj
    rcases List.mem_cons.1 hj with rfl | hj
    · exact List.mem_range.2 hlt
    · exact List.mem_range.2 ((h.free j).1 hj).1
  have hnodup : (i :: p.freeList).Nodup := List.nodup_cons.2 ⟨hnot, h.nodup⟩
  have hlen := (hnodup.subperm hsub).length_le
  rw [List.length_cons, List.length_range] at hlen
  have := h.alloc
  omega

theorem Pool.Holds.lt_capacity (h : p.Holds refs) (hi : 0 < refs i) : i < p.capacity := by
  by_contra hge
  have := h.bound i (by omega)
  omega

theorem poolAlloc_holds (h : p.Holds refs) (ha : poolAlloc p = some (i, p'))
    (hrefs : ∀ j, refs' j = refs j + if j = i then 1 else 0) :
    refs i = 0 ∧ p'.Holds refs' := by
  unfold poolAlloc at ha
  split at ha
  · cases ha
  · rename_i node next hfree
    obtain ⟨rfl, rfl⟩ := Prod.mk.inj (Option.some.inj ha)
    have hmem := (h.free node).1 (by rw [hfree]; exact List.mem_cons_self)
    have hnodup := h.nodup
    rw [hfree, List.nodup_cons] at hnodup
    refine ⟨hmem.2, hnodup.2, ?_, ?_, ?_, ?_⟩
    · intro j hj
      have hj' : j ≠ node := by
        rintro rfl
        exact absurd hmem.1 (Nat.not_lt.2 hj)
      rw [hrefs, h.bound j hj, if_neg hj']
    · intro j
      simp only [hrefs]
      rcases Decidable.em (j = node) with rfl | hj
      · rw [Function.update_self, if_pos rfl, hmem.2]
      · rw [Function.update_of_ne hj, if_neg hj, h.count]
        rfl
    · intro j
      have hj := h.free j
      rw [hfree, List.mem_cons] at hj
      simp only [hrefs]
      rcases Decidable.em (j = node) with rfl | hne
      · simp [hnodup.1]
      · rw [if_neg hne, Nat.add_zero, ← hj]
        simp [hne]
    · have := h.alloc
      rw [hfree, List.length_cons] at this
      simp only
      omega

theorem poolRetain_holds (h : p.Holds refs) (hi : 0 < refs i)
    (hrefs : ∀ j, refs' j = refs j + if j = i then 1 else 0) :
    (poolRetain p i).Holds refs' := by
  have hpos := h.allocCount_pos hi
  have hlt := h.lt_capacity hi
  rw [poolRetain, if_neg (by omega), if_neg (by omega)]
  refine ⟨h.nodup, ?_, ?_, ?_, h.alloc⟩
  · intro j hj
    have hj' : j ≠ i := by
      rintro rfl
      exact absurd hlt (Nat.not_lt.2 hj)
    rw [hrefs, h.bound j hj, if_neg hj']
  · intro j
    simp only [hrefs]
    rcases Decidable.em (j = i) with rfl | hj
    · rw [Function.update_self, if_pos rfl, h.count]
    · rw [Function.update_of_ne hj, if_neg hj, h.count]
      rfl
  · intro j
    simp only [hrefs, h.free]
    split
    · subst j
      omega
    · rfl

theorem poolFree_holds (h : p.Holds refs) (hi : 0 < refs i) (hzero : refs' i = 0)
    (hother : ∀ j, j ≠ i → refs' j = refs j) : (poolFree p i).Holds refs' := by
  have hpos := h.allocCount_pos hi
  have hlt := h.lt_capacity hi
  have hnot : i ∉ p.freeList := fun hmem => by
    have := ((h.free i).1 hmem).2
    omega
  have hlist := h.alloc
  rw [poolFree, if_neg (by omega), if_neg (by omega), poolFreeNode]
  refine ⟨List.nodup_cons.2 ⟨hnot, h.nodup⟩, ?_, ?_, ?_, ?_⟩
  · intro j hj
    have hj' : p.capacity ≤ j := hj
    rw [hother j (by omega), h.bound j hj']
  · intro j
    simp only
    rcases Decidable.em (j = i) with rfl | hj
    · rw [Function.update_self, hzero]
    · rw [Function.update_of_ne hj, h.count, hother j hj]
  · intro j
    simp only [List.mem_cons]
    rcases Decidable.em (j = i) with rfl | hj
    · simp [hlt, hzero]
    · rw [h.free, hother j hj]
      simp [hj]
  · simp only [List.length_cons]
    omega

theorem poolRelease_eq (hpos : 0 < p.allocCount) (hlt : i < p.capacity) {n : Nat}
    (hn : p.retainCount i = n + 1) :
    poolRelease p i = if n = 0 then
        poolFreeNode { p with retainCount := Function.update p.retainCount i n } i
      else { p with retainCount := Function.update p.retainCount i n } := by
  simp [poolRelease, Nat.pos_iff_ne_zero.1 hpos, Nat.not_le.2 hlt, hn]

/-- Freeing a node sets its retain count. -/
theorem poolFreeNode_retainCount (n : Nat) :
    poolFreeNode { p with retainCount := Function.update p.retainCount i n } i =
      poolFreeNode p i := by
  simp [poolFreeNode]

theorem poolRelease_holds (h : p.Holds refs)
    (hrefs : ∀ j, refs j = refs' j + if j = i then 1 else 0) :
    (poolRelease p i).Holds refs' := by
  have hi : refs i = refs' i + 1 := by
    rw [hrefs, if_pos rfl]
  have hother : ∀ j, j ≠ i → refs' j = refs j := by
    intro j hj
    rw [hrefs, if_neg hj]
    rfl
  have hlt := h.lt_capacity (i := i) (by omega)
  have hpos := h.allocCount_pos (i := i) (by omega)
  rw [poolRelease_eq hpos hlt ((h.count i).trans hi)]
  split
  · -- the last reference: the node goes back to the free list
    rename_i hzero
    have hfree := poolFree_holds h (by omega) hzero hother
    rw [poolFree, if_neg (by omega), if_neg (by omega)] at hfree
    rw [poolFreeNode_retainCount]
    exact hfree
  · rename_i hzero
    refine ⟨h.nodup, ?_, ?_, ?_, h.alloc⟩
    · intro j hj
      have hj' : j ≠ i := by
        rintro rfl
        exact absurd hlt (Nat.not_lt.2 hj)
      rw [hother j hj', h.bound j hj]
    · intro j
      simp only
      rcases Decidable.em (j = i) with rfl | hj
      · rw [Function.update_self]
      · rw [Function.update_of_ne hj, h.count, hother j hj]
    · intro j
      rw [h.free]
      rcases Decidable.em (j = i) with rfl | hj
      · simp [hi, hzero]
      · rw [hother j hj]

theorem poolAlloc_objects (h : poolAlloc p = some (i, p')) : p'.objects = p.objects := by
  unfold poolAlloc at h
  split at h
  · cases h
  · obtain ⟨-, rfl⟩ := Prod.mk.inj (Option.some.inj h)
    rfl

theorem poolAlloc_capacity (h : poolAlloc p = some (i, p')) : p'.capacity = p.capacity := by
  unfold poolAlloc at h
  split at h
  · cases h
  · obtain ⟨-, rfl⟩ := Prod.mk.inj (Option.some.inj h)
    rfl

/-- Only the free list and the counts change. -/
def Pool.SameObjects (p p' : Pool α) : Prop := p'.capacity = p.capacity ∧ p'.objects = p.objects

theorem poolRetain_same (p : Pool α) (i : Nat) : p.SameObjects (poolRetain p i) := by
  unfold poolRetain
  split
  · exact ⟨rfl, rfl⟩
  split <;> exact ⟨rfl, rfl⟩

theorem poolFree_same (p : Pool α) (i : Nat) : p.SameObjects (poolFree p i) := by
  unfold poolFree
  split
  · exact ⟨rfl, rfl⟩
  split <;> exact ⟨rfl, rfl⟩

theorem poolRelease_same (p : Pool α) (i : Nat) : p.SameObjects (poolRelease p i) := by
  unfold poolRelease
  split
  · exact ⟨rfl, rfl⟩
  split
  · exact ⟨rfl, rfl⟩
  dsimp only
  split <;> split <;> exact ⟨rfl, rfl⟩

@[simp]
theorem poolRetain_capacity (p : Pool α) (i : Nat) : (poolRetain p i).capacity = p.capacity :=
  (poolRetain_same p i).1

@[simp]
theorem poolFree_capacity (p : Pool α) (i : Nat) : (poolFree p i).capacity = p.capacity :=
  (poolFree_same p i).1

@[simp]
theorem poolRelease_capacity (p : Pool α) (i : Nat) : (poolRelease p i).capacity = p.capacity :=
  (poolRelease_same p i).1

@[simp]
theorem poolRetain_objects (p : Pool α) (i : Nat) : (poolRetain p i).objects = p.objects :=
  (poolRetain_same p i).2

@[simp]
theorem poolRelease_objects (p : Pool α) (i : Nat) : (poolRelease p i).objects = p.objects :=
  (poolRelease_same p i).2

end Rules

end UniversalNetwork
