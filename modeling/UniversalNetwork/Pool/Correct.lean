import UniversalNetwork.Pool.Memory

/-!
# Runs of the pool

A run calls the four operations in any order. It keeps a tally for each object of what was done to
it since it was last handed out, and an operation on an object is permitted while the object is
allocated by this tally, or when its address is outside the block.

* `Kept.step`: a permitted operation keeps the pool and the tallies in agreement.
* `pool_correct_iff`: every permitted run is correct exactly when the size of the block does not wrap
  around.
-/

namespace UniversalNetwork

open Lib

/-! ## Runs -/

/-- What was done to an object since it was last handed out. -/
structure Tally where
  retains : Nat
  releases : Nat
  freed : Bool
deriving DecidableEq, Repr

/-- Its releases match its allocation and its retains, or it was freed. -/
def Tally.isFree (t : Tally) : Bool := t.freed || t.releases == 1 + t.retains

/-- The references that are left. -/
def Tally.count (t : Tally) : Nat := if t.freed then 0 else 1 + t.retains - t.releases

structure PoolRun where
  pool : PoolStruct
  tally : Nat → Option Tally

inductive PoolOp
  | alloc
  | retain (object : Nat)
  | release (object : Nat)
  | free (object : Nat)
deriving DecidableEq, Repr

namespace PoolRun

/-- A run that starts. -/
def start (pool : PoolStruct) : PoolRun := ⟨pool, fun _ => none⟩

def isAllocated (r : PoolRun) (object : Nat) : Bool := (r.tally object).any fun t => !t.isFree

def count (r : PoolRun) (object : Nat) : Nat := ((r.tally object).map Tally.count).getD 0

/-- One more operation on an object. -/
def noted (r : PoolRun) (object : Nat) (f : Tally → Tally) : Nat → Option Tally :=
  Function.update r.tally object ((r.tally object).map f)

def step (r : PoolRun) : PoolOp → Option PoolRun
  | .alloc => do
    let (object, pool) ← r.pool.poolAlloc
    some ⟨pool, if object = 0 then r.tally
      else Function.update r.tally object (some ⟨0, 0, false⟩)⟩
  | .retain object => do
    let pool ← r.pool.poolRetain object
    some ⟨pool, r.noted object fun t => { t with retains := t.retains + 1 }⟩
  | .release object => do
    let pool ← r.pool.poolRelease object
    some ⟨pool, r.noted object fun t => { t with releases := t.releases + 1 }⟩
  | .free object => do
    let pool ← r.pool.poolFree object
    some ⟨pool, r.noted object fun t => { t with freed := true }⟩

/-- On allocated objects, with a count that stays below `2^32`, or on foreign addresses. -/
def Permitted (r : PoolRun) : PoolOp → Prop
  | .alloc => True
  | .retain object =>
    (r.isAllocated object = true ∧ r.count object + 1 < 2 ^ 32) ∨
      r.pool.AddressDoesNotBelong object
  | .release object | .free object =>
    r.isAllocated object = true ∨ r.pool.AddressDoesNotBelong object

/-- The objects that are allocated. -/
def allocated (r : PoolRun) : Nat :=
  (List.range r.pool.capacity).countP fun i => r.isAllocated (r.pool.objectAt i)

/-- What a pool is to be in every state of a run. -/
structure Correct (r : PoolRun) : Prop where
  /-- No node is visited twice by the free list, which ends. -/
  freeList : ∃ l, Chain 0 (fun addr => (r.pool.nodes addr).next) r.pool.freeList l ∧ l.Nodup ∧
    (∀ addr, addr ∈ l ↔ (∃ i < r.pool.capacity, addr = r.pool.nodeAt i) ∧
      (r.pool.nodes addr).retainCount = 0) ∧
    r.pool.allocCount + l.length = r.pool.capacity
  free : ∀ i < r.pool.capacity, (r.pool.nodes (r.pool.nodeAt i)).retainCount = 0 ↔
    r.isAllocated (r.pool.objectAt i) = false
  allocCount : r.pool.allocCount = r.allocated
  alloc : ∃ object pool, r.pool.poolAlloc = some (object, pool) ∧
    (object = 0 ↔ r.allocated = r.pool.capacity) ∧
    (object ≠ 0 → r.isAllocated object = false ∧ r.pool.memblock ≤ object ∧
      r.pool.sizeObjectNode ∣ object - r.pool.memblock ∧ object < r.pool.membound)
  foreign : ∀ object, r.pool.AddressDoesNotBelong object →
    r.pool.poolRetain object = some r.pool ∧ r.pool.poolFree object = some r.pool ∧
      r.pool.poolRelease object = some r.pool

/-! ## Agreement of the pool and the tallies -/

/-- The references to a node by its number. -/
def refs (r : PoolRun) (i : Nat) : Nat :=
  if i < r.pool.capacity then r.count (r.pool.objectAt i) else 0

structure Kept (r : PoolRun) (q : Pool Unit) : Prop where
  represents : Represents r.pool q
  holds : q.Holds r.refs
  object : ∀ object t, r.tally object = some t → ∃ i < r.pool.capacity, object = r.pool.objectAt i
  tally : ∀ object t, r.tally object = some t → t.freed = true ∨ t.releases ≤ 1 + t.retains
  small : ∀ object, r.count object < 2 ^ 32

theorem Tally.isFree_iff {t : Tally} (h : t.freed = true ∨ t.releases ≤ 1 + t.retains) :
    t.isFree = true ↔ t.count = 0 := by
  rw [Tally.isFree, Tally.count]
  cases hfreed : t.freed with
  | true => simp
  | false =>
    have hle : t.releases ≤ 1 + t.retains := h.resolve_left (by simp [hfreed])
    simp
    omega

section Kept

variable {r : PoolRun} {q : Pool Unit} (h : r.Kept q) {object i : Nat}
include h

theorem Kept.isAllocated_iff : r.isAllocated object = true ↔ 0 < r.count object := by
  rw [isAllocated, count]
  cases ht : r.tally object with
  | none => simp
  | some t =>
    have hfree := Tally.isFree_iff (h.tally object t ht)
    simp only [Option.any_some, Option.map_some, Option.getD_some, Nat.pos_iff_ne_zero, ne_eq,
      ← hfree, Bool.not_eq_true, Bool.not_eq_eq_eq_not, Bool.not_true]

theorem Kept.exists_object (hobject : r.isAllocated object = true) :
    ∃ i < r.pool.capacity, object = r.pool.objectAt i ∧ 0 < r.refs i := by
  obtain ⟨t, ht⟩ : ∃ t, r.tally object = some t := by
    cases ht : r.tally object with
    | none => simp [isAllocated, ht] at hobject
    | some t => exact ⟨t, rfl⟩
  obtain ⟨i, hi, rfl⟩ := h.object object t ht
  refine ⟨i, hi, rfl, ?_⟩
  rw [refs, if_pos hi]
  exact h.isAllocated_iff.1 hobject

/-- Nothing is noted for an address outside the block. -/
theorem Kept.noted_foreign (hforeign : r.pool.AddressDoesNotBelong object) (f : Tally → Tally) :
    r.noted object f = r.tally := by
  have hnone : r.tally object = none := by
    cases ht : r.tally object with
    | none => rfl
    | some t =>
      obtain ⟨i, hi, rfl⟩ := h.object object t ht
      exact absurd hforeign (h.represents.formed.belongs hi)
  rw [noted, hnone, Option.map_none, ← hnone, Function.update_eq_self]

/-- The references after one tally was set. -/
theorem Kept.refs_update {pool : PoolStruct} (hsame : r.pool.SameBlock pool)
    (hi : i < r.pool.capacity) (t : Tally) (j : Nat) :
    PoolRun.refs ⟨pool, Function.update r.tally (r.pool.objectAt i) (some t)⟩ j =
      if j = i then t.count else r.refs j := by
  have hobject : ∀ k, pool.objectAt k = r.pool.objectAt k := hsame.objectAt
  rw [refs, refs, hsame.capacity]
  by_cases hj : j = i
  · subst hj
    simp [hi, count, hobject]
  · have hne : r.pool.objectAt j ≠ r.pool.objectAt i :=
      fun heq => hj (h.represents.formed.objectAt_inj heq)
    simp [hj, count, hobject, Function.update_of_ne hne]

/-- One tally is set as the pool represents it. -/
theorem Kept.update {pool : PoolStruct} {q' : Pool Unit} (hsame : r.pool.SameBlock pool)
    (hrep : Represents pool q') (hi : i < r.pool.capacity) {t : Tally}
    (ht : t.freed = true ∨ t.releases ≤ 1 + t.retains) (hcount : t.count < 2 ^ 32)
    (hq' : q'.Holds fun j => if j = i then t.count else r.refs j) :
    Kept ⟨pool, Function.update r.tally (r.pool.objectAt i) (some t)⟩ q' where
  represents := hrep
  holds := hq'.congr (h.refs_update hsame hi t)
  object := by
    intro o t' ht'
    show ∃ i < pool.capacity, o = pool.objectAt i
    rw [hsame.capacity]
    by_cases ho : o = r.pool.objectAt i
    · exact ⟨i, hi, by rw [ho, hsame.objectAt]⟩
    · obtain ⟨j, hj, rfl⟩ := h.object o t' (by simpa [Function.update_of_ne ho] using ht')
      exact ⟨j, hj, (hsame.objectAt j).symm⟩
  tally := by
    intro o t' ht'
    by_cases ho : o = r.pool.objectAt i
    · subst ho
      simp only [Function.update_self, Option.some.injEq] at ht'
      exact ht' ▸ ht
    · exact h.tally o t' (by simpa [Function.update_of_ne ho] using ht')
  small := by
    intro o
    by_cases ho : o = r.pool.objectAt i
    · simpa [count, ho] using hcount
    · have := h.small o
      simpa [count, Function.update_of_ne ho] using this

theorem Kept.tally_of_allocated (hobject : r.isAllocated object = true) :
    ∃ t, r.tally object = some t ∧ t.freed = false ∧ t.releases ≤ t.retains ∧
      r.count object = 1 + t.retains - t.releases := by
  have hpos := h.isAllocated_iff.1 hobject
  rw [count] at hpos
  cases ht : r.tally object with
  | none => simp [ht] at hpos
  | some t =>
    simp only [ht, Option.map_some, Option.getD_some, Tally.count] at hpos
    cases hfreed : t.freed with
    | true => simp [hfreed] at hpos
    | false =>
      simp only [hfreed, Bool.false_eq_true, ↓reduceIte] at hpos
      refine ⟨t, rfl, hfreed, by omega, ?_⟩
      simp [count, ht, Tally.count, hfreed]

theorem Kept.alloc :
    ∃ r', r.step .alloc = some r' ∧ r.pool.SameBlock r'.pool ∧ ∃ q', r'.Kept q' := by
  rcases represents_alloc h.represents h.holds with
    ⟨-, halloc⟩ | ⟨i, q', pool, hq', hi, halloc, hsame, hrep⟩
  · refine ⟨r, ?_, rfl, q, h⟩
    simp [step, halloc]
  · have hne : r.pool.objectAt i ≠ 0 := by
      have := h.represents.formed.memblock
      rw [PoolStruct.objectAt]
      omega
    have hfresh : r.refs i = 0 := (poolAlloc_holds h.holds hq' fun _ => rfl).1
    refine ⟨⟨pool, Function.update r.tally (r.pool.objectAt i) (some ⟨0, 0, false⟩)⟩, ?_, hsame,
      q', ?_⟩
    · simp [step, halloc, hne]
    · refine h.update hsame hrep hi (.inr (Nat.zero_le _)) (by decide)
        (poolAlloc_holds h.holds hq' fun j => ?_).2
      by_cases hj : j = i
      · simp [hj, hfresh, Tally.count]
      · simp [hj]

theorem Kept.retain (hcount : r.count object + 1 < 2 ^ 32)
    (hobject : r.isAllocated object = true) :
    ∃ r', r.step (.retain object) = some r' ∧ r.pool.SameBlock r'.pool ∧ ∃ q', r'.Kept q' := by
  obtain ⟨t, ht, hfreed, hle, hr⟩ := h.tally_of_allocated hobject
  obtain ⟨i, hi, rfl, hpos⟩ := h.exists_object hobject
  have hrefs : r.refs i = 1 + t.retains - t.releases := by rw [refs, if_pos hi, hr]
  obtain ⟨pool, hretain, hsame, hrep⟩ :=
    represents_retain h.represents h.holds hpos (by omega)
  refine ⟨_, by rw [step, hretain]; rfl, hsame, poolRetain q i, ?_⟩
  rw [noted, ht, Option.map_some]
  have hcount' : ({ t with retains := t.retains + 1 } : Tally).count = r.refs i + 1 := by
    rw [Tally.count, if_neg (by simp [hfreed]), hrefs]
    show 1 + (t.retains + 1) - t.releases = _
    omega
  refine h.update hsame hrep hi (.inr (by simp only; omega)) (by omega)
    (poolRetain_holds h.holds hpos fun j => ?_)
  by_cases hj : j = i
  · simp [hj, hcount']
  · simp [hj]

theorem Kept.release (hobject : r.isAllocated object = true) :
    ∃ r', r.step (.release object) = some r' ∧ r.pool.SameBlock r'.pool ∧ ∃ q', r'.Kept q' := by
  obtain ⟨t, ht, hfreed, hle, hr⟩ := h.tally_of_allocated hobject
  have hsmall := h.small object
  obtain ⟨i, hi, rfl, hpos⟩ := h.exists_object hobject
  have hrefs : r.refs i = 1 + t.retains - t.releases := by rw [refs, if_pos hi, hr]
  obtain ⟨pool, hrelease, hsame, hrep⟩ :=
    represents_release h.represents h.holds hpos (by omega)
  refine ⟨_, by rw [step, hrelease]; rfl, hsame, poolRelease q i, ?_⟩
  rw [noted, ht, Option.map_some]
  have hcount' : ({ t with releases := t.releases + 1 } : Tally).count + 1 = r.refs i := by
    rw [Tally.count, if_neg (by simp [hfreed]), hrefs]
    show 1 + t.retains - (t.releases + 1) + 1 = _
    omega
  refine h.update hsame hrep hi (.inr (by simp only; omega)) (by omega)
    (poolRelease_holds h.holds fun j => ?_)
  by_cases hj : j = i
  · simp [hj, ← hcount']
  · simp [hj]

theorem Kept.free (hobject : r.isAllocated object = true) :
    ∃ r', r.step (.free object) = some r' ∧ r.pool.SameBlock r'.pool ∧ ∃ q', r'.Kept q' := by
  obtain ⟨t, ht, -⟩ := h.tally_of_allocated hobject
  obtain ⟨i, hi, rfl, hpos⟩ := h.exists_object hobject
  obtain ⟨pool, hfree, hsame, hrep⟩ := represents_free h.represents h.holds hpos
  refine ⟨_, by rw [step, hfree]; rfl, hsame, poolFree q i, ?_⟩
  rw [noted, ht, Option.map_some]
  refine h.update hsame hrep hi (.inl rfl) (by simp [Tally.count])
    (poolFree_holds h.holds hpos (if_pos rfl) fun j hj => if_neg hj)

/-- A permitted operation returns, and keeps the agreement. -/
theorem Kept.step (op : PoolOp) (hop : r.Permitted op) :
    ∃ r', r.step op = some r' ∧ r.pool.SameBlock r'.pool ∧ ∃ q', r'.Kept q' := by
  cases op with
  | alloc => exact h.alloc
  | retain object =>
    rcases hop with ⟨hobject, hcount⟩ | hforeign
    · exact h.retain hcount hobject
    · refine ⟨r, ?_, rfl, q, h⟩
      rw [PoolRun.step, (foreign_unchanged hforeign).1, h.noted_foreign hforeign]
      rfl
  | release object =>
    rcases hop with hobject | hforeign
    · exact h.release hobject
    · refine ⟨r, ?_, rfl, q, h⟩
      rw [PoolRun.step, (foreign_unchanged hforeign).2.2, h.noted_foreign hforeign]
      rfl
  | free object =>
    rcases hop with hobject | hforeign
    · exact h.free hobject
    · refine ⟨r, ?_, rfl, q, h⟩
      rw [PoolRun.step, (foreign_unchanged hforeign).2.1, h.noted_foreign hforeign]
      rfl

/-! ## Correctness of a state -/

theorem Kept.isAllocated_eq_false (hi : i < r.pool.capacity) :
    r.isAllocated (r.pool.objectAt i) = false ↔ r.refs i = 0 := by
  rw [← Bool.not_eq_true, h.isAllocated_iff, refs, if_pos hi]
  omega

theorem Kept.retainCount_eq (hi : i < r.pool.capacity) :
    (r.pool.nodes (r.pool.nodeAt i)).retainCount = r.refs i :=
  (h.represents.retainCount i hi).trans (h.holds.count i)

/-- The nodes of the free list are those of the objects that are not allocated. -/
theorem Kept.allocated_eq : q.allocCount = r.allocated := by
  have hperm : q.freeList.Perm ((List.range r.pool.capacity).filter fun i =>
      ¬ r.isAllocated (r.pool.objectAt i)) := by
    refine (List.perm_ext_iff_of_nodup h.holds.nodup (List.nodup_range.filter _)).2 fun i => ?_
    rw [h.holds.free, h.represents.capacity, List.mem_filter, List.mem_range]
    refine and_congr_right fun hi => ?_
    simp [← h.isAllocated_eq_false hi]
  have hlength := hperm.length_eq
  have hsplit := (List.range r.pool.capacity).length_eq_countP_add_countP
    fun i => r.isAllocated (r.pool.objectAt i)
  have halloc := h.holds.alloc
  rw [← List.countP_eq_length_filter] at hlength
  rw [List.length_range] at hsplit
  rw [h.represents.capacity] at halloc
  rw [allocated]
  omega

theorem Kept.correct_freeList :
    ∃ l, Chain 0 (fun addr => (r.pool.nodes addr).next) r.pool.freeList l ∧ l.Nodup ∧
      (∀ addr, addr ∈ l ↔ (∃ i < r.pool.capacity, addr = r.pool.nodeAt i) ∧
        (r.pool.nodes addr).retainCount = 0) ∧
      r.pool.allocCount + l.length = r.pool.capacity := by
  refine ⟨_, h.represents.freeList, h.represents.freeList.nodup, fun addr => ?_, ?_⟩
  · rw [List.mem_map]
    constructor
    · rintro ⟨i, hi, rfl⟩
      rw [h.holds.free, h.represents.capacity] at hi
      exact ⟨⟨i, hi.1, rfl⟩, (h.retainCount_eq hi.1).trans hi.2⟩
    · rintro ⟨⟨i, hi, rfl⟩, hzero⟩
      rw [h.retainCount_eq hi] at hzero
      exact ⟨i, (h.holds.free i).2 ⟨h.represents.capacity ▸ hi, hzero⟩, rfl⟩
  · rw [List.length_map, h.represents.allocCount, ← h.represents.capacity]
    exact h.holds.alloc

theorem Kept.correct_alloc :
    ∃ object pool, r.pool.poolAlloc = some (object, pool) ∧
      (object = 0 ↔ r.allocated = r.pool.capacity) ∧
      (object ≠ 0 → r.isAllocated object = false ∧ r.pool.memblock ≤ object ∧
        r.pool.sizeObjectNode ∣ object - r.pool.memblock ∧ object < r.pool.membound) := by
  have halloc := h.holds.alloc
  rw [h.allocated_eq, h.represents.capacity] at halloc
  rcases represents_alloc h.represents h.holds with
    ⟨hq, hpool⟩ | ⟨i, q', pool, hq, hi, hpool, -, -⟩
  · have hempty : q.freeList = [] := by
      rw [poolAlloc] at hq
      split at hq
      · assumption
      · cases hq
    rw [hempty] at halloc
    exact ⟨0, r.pool, hpool, iff_of_true rfl halloc, fun hne => absurd rfl hne⟩
  · have hne : r.pool.objectAt i ≠ 0 := by
      have := h.represents.formed.memblock
      rw [PoolStruct.objectAt]
      omega
    have hfresh : r.refs i = 0 := (poolAlloc_holds h.holds hq fun _ => rfl).1
    have hmem : i ∈ q.freeList := (h.holds.free i).2 ⟨h.represents.capacity ▸ hi, hfresh⟩
    have hpos := List.length_pos_of_mem hmem
    refine ⟨_, pool, hpool, iff_of_false hne (by omega), fun _ => ⟨?_, ?_, ?_, ?_⟩⟩
    · exact (h.isAllocated_eq_false hi).2 hfresh
    · exact Nat.le_add_right _ _
    · rw [PoolStruct.objectAt, Nat.add_sub_cancel_left]
      exact Nat.dvd_mul_left _ _
    · exact h.represents.formed.objectAt_lt hi

theorem Kept.correct : r.Correct where
  freeList := h.correct_freeList
  free := fun i hi => by rw [h.retainCount_eq hi, h.isAllocated_eq_false hi]
  allocCount := h.represents.allocCount.trans h.allocated_eq
  alloc := h.correct_alloc
  foreign := fun _ hforeign => foreign_unchanged hforeign

end Kept

end PoolRun

/-! ## Runs from `pool_create` -/

/-- The pool is created in the block at `memblock`, and every run of permitted operations returns in
a correct state. -/
def PoolCorrect (memblock : Nat) (memory : Nat → PoolNode) (sizeObject capacity : Nat) : Prop :=
  ∃ pool, PoolStruct.poolCreate memblock memory sizeObject capacity = some pool ∧
    ∀ ops, Along PoolRun.step PoolRun.Permitted (.start pool) ops →
      ∃ r, run PoolRun.step (.start pool) ops = some r ∧ r.Correct ∧
        r.pool.memblock = memblock ∧ r.pool.capacity = capacity ∧
        r.pool.sizeObjectNode = sizeObject + kPoolNodeSize

section Create

variable {memblock sizeObject capacity : Nat} {memory : Nat → PoolNode}

theorem poolCreate_kept (memory : Nat → PoolNode) (hmemblock : 0 < memblock) (hpos : 1 ≤ capacity)
    (hsmall : capacity < 2 ^ 31) (hfit : capacity * (sizeObject + kPoolNodeSize) < 2 ^ 64) :
    ∃ pool q, PoolStruct.poolCreate memblock memory sizeObject capacity = some pool ∧
      (PoolRun.start pool).Kept q ∧ pool.memblock = memblock ∧ pool.capacity = capacity ∧
      pool.sizeObjectNode = sizeObject + kPoolNodeSize := by
  have hnode : sizeObject + kPoolNodeSize ≤ capacity * (sizeObject + kPoolNodeSize) :=
    Nat.le_mul_of_pos_left _ hpos
  set p : PoolStruct :=
    ⟨memblock, memblock + capacity * (sizeObject + kPoolNodeSize), sizeObject,
      sizeObject + kPoolNodeSize, capacity, 0, 0, memory⟩ with hp
  have hformed : p.Formed := ⟨hmemblock, rfl, rfl⟩
  obtain ⟨pool, hweave, hsame, hrep⟩ := represents_weave hformed hsmall rfl rfl
  refine ⟨pool, poolCreate p.capacity fun _ => (), ?_, ?_, ?_, hsame.capacity, ?_⟩
  · have hsize : (sizeObject + kPoolNodeSize) % 2 ^ 64 = sizeObject + kPoolNodeSize :=
      Nat.mod_eq_of_lt (by omega)
    rw [PoolStruct.poolCreate, hsize, Nat.mod_eq_of_lt hfit]
    exact hweave
  · exact {
      represents := hrep
      holds := (poolCreate_holds _ _).congr fun i => ite_self 0
      object := fun _ _ ht => nomatch ht
      tally := fun _ _ ht => nomatch ht
      small := fun _ => Nat.two_pow_pos 32 }
  · rw [hsame]
  · rw [hsame]

theorem setNode_eq_some {p p' : PoolStruct} {addr : Nat} {node : PoolNode}
    (h : p.setNode addr node = some p') :
    addr + kPoolNodeSize ≤ p.membound ∧ p' = p.put addr node := by
  rw [PoolStruct.setNode] at h
  split at h
  · rename_i hinside
    exact ⟨hinside.2, (Option.some.inj h).symm⟩
  · cases h

/-- What is woven is in the block. -/
theorem weave_inside {p pool : PoolStruct} {n addrNode prevNode : Nat}
    (h : p.weave n addrNode prevNode = some pool) :
    ∀ i < n, addrNode + i * p.sizeObjectNode + kPoolNodeSize ≤ p.membound := by
  induction n generalizing p addrNode prevNode with
  | zero => exact fun i hi => absurd hi (Nat.not_lt_zero i)
  | succ n ih =>
    obtain ⟨p₁, hset, h⟩ := Option.bind_eq_some_iff.1 h
    obtain ⟨hfirst, rfl⟩ := setNode_eq_some hset
    have hrest : ∃ p₂ : PoolStruct,
        p₂.weave n (addrNode + p.sizeObjectNode) addrNode = some pool ∧
        p₂.sizeObjectNode = p.sizeObjectNode ∧ p₂.membound = p.membound := by
      simp only [Option.bind_eq_bind] at h
      split at h
      · rw [Option.bind_some] at h
        exact ⟨_, h, rfl, rfl⟩
      · obtain ⟨prev, -, h⟩ := Option.bind_eq_some_iff.1 h
        obtain ⟨p₂, hlink, h⟩ := Option.bind_eq_some_iff.1 h
        obtain ⟨-, rfl⟩ := setNode_eq_some hlink
        exact ⟨_, h, rfl, rfl⟩
    obtain ⟨p₂, h, hsize, hbound⟩ := hrest
    intro i hi
    cases i with
    | zero => simpa using hfirst
    | succ i =>
      have := ih h i (by omega)
      rw [hsize, hbound] at this
      rw [Nat.add_one_mul]
      omega

/-- Creation is in the block only if its size did not wrap around. -/
theorem poolCreate_fits {pool : PoolStruct} (hpos : 1 ≤ capacity)
    (h : PoolStruct.poolCreate memblock memory sizeObject capacity = some pool) :
    capacity * (sizeObject + kPoolNodeSize) < 2 ^ 64 := by
  have hinside := weave_inside h
  simp only at hinside
  -- the first node says that the size of a node is exact, the last one that the product is
  have hbound : capacity * ((sizeObject + kPoolNodeSize) % 2 ^ 64) % 2 ^ 64 < 2 ^ 64 :=
    Nat.mod_lt _ (Nat.two_pow_pos 64)
  have hfirst := hinside 0 (by omega)
  have hnode : (sizeObject + kPoolNodeSize) % 2 ^ 64 = sizeObject + kPoolNodeSize :=
    Nat.mod_eq_of_lt (by omega)
  have hlast := hinside (capacity - 1) (by omega)
  rw [hnode] at hlast hbound
  have hproduct : (capacity - 1) * (sizeObject + kPoolNodeSize) + (sizeObject + kPoolNodeSize) =
      capacity * (sizeObject + kPoolNodeSize) := by
    rw [← Nat.succ_mul, Nat.succ_eq_add_one, Nat.sub_add_cancel hpos]
  omega

theorem poolCorrect_of_fits (hmemblock : 0 < memblock) (hpos : 1 ≤ capacity)
    (hsmall : capacity < 2 ^ 31) (hfit : capacity * (sizeObject + kPoolNodeSize) < 2 ^ 64) :
    PoolCorrect memblock memory sizeObject capacity := by
  obtain ⟨pool, q, hcreate, hkept, hstart, hcapacity, hnode⟩ :=
    poolCreate_kept memory hmemblock hpos hsmall hfit
  refine ⟨pool, hcreate, fun ops hops => ?_⟩
  have hinit : pool.SameBlock (PoolRun.start pool).pool ∧ ∃ q, (PoolRun.start pool).Kept q :=
    ⟨rfl, q, hkept⟩
  have hrun := run_along_safe (P := fun r : PoolRun => pool.SameBlock r.pool ∧ ∃ q, r.Kept q)
    hinit (fun r op ⟨hsame, q, hr⟩ hop => by
      obtain ⟨r', hr', hsame', q', hq'⟩ := hr.step op hop
      exact ⟨r', hr', hsame.trans hsame', q', hq'⟩) hops
  obtain ⟨r, hr, hsame, q', hq'⟩ := hrun
  refine ⟨r, hr, hq'.correct, ?_, hsame.capacity.trans hcapacity, ?_⟩
  · rw [hsame, hstart]
  · rw [hsame, hnode]

end Create

/-- **The pool is correct exactly when the size of its block does not wrap around**: for any block
that `malloc` returned, every capacity below `2^31` and every object size. -/
theorem pool_correct_iff (memblock : Nat) (hmemblock : 0 < memblock) (memory : Nat → PoolNode)
    (sizeObject capacity : Nat) (hpos : 1 ≤ capacity) (hsmall : capacity < 2 ^ 31) :
    PoolCorrect memblock memory sizeObject capacity ↔
      capacity * (sizeObject + kPoolNodeSize) < 2 ^ 64 := by
  constructor
  · rintro ⟨pool, hcreate, -⟩
    exact poolCreate_fits hpos hcreate
  · exact poolCorrect_of_fits hmemblock hpos hsmall

/-- The pool of the unit tests. -/
theorem pool_correct_default :
    PoolCorrect 4096 (fun _ => ⟨0, 0, 0⟩) 4 32 ↔ 32 * (4 + kPoolNodeSize) < 2 ^ 64 :=
  pool_correct_iff 4096 (by decide) _ 4 32 (by decide) (by decide)

/-- Two objects for which 32 bytes are allocated. -/
theorem pool_wraps : ¬ PoolCorrect 4096 (fun _ => ⟨0, 0, 0⟩) (2 ^ 63 - 8) 2 := by
  rintro ⟨pool, hcreate, -⟩
  have hfit := poolCreate_fits (by decide) hcreate
  exact absurd hfit (by decide)

end UniversalNetwork
