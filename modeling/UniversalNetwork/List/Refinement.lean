import UniversalNetwork.Lib.Chain
import UniversalNetwork.List
import Mathlib.Data.List.Range

/-!
# A list is a sequence

`Linked l active reserved`: the nodes `active` are linked forwards from `head` and backwards from
`tail`, the nodes `reserved` from `reserved` on, and together they are the indices from 1 to the
capacity, each once. The operations keep this (`Full.listAdd`, `Linked.listAdd`, `Linked.listRemove`),
and the loops of the list see the objects of the active nodes in order.

* `list_refines`: in every run of additions and removals the list is the sequence of its objects, as
  long as the counters have values of type `int`.
-/

namespace UniversalNetwork

open Lib

namespace ListStruct

/-! ## Nodes -/

def next (l : ListStruct) (index : Nat) : Nat := (l.reservedMem index).next

def previous (l : ListStruct) (index : Nat) : Nat := (l.reservedMem index).previous

def object (l : ListStruct) (index : Nat) : Nat := (l.reservedMem index).object

structure Linked (l : ListStruct) (active reserved : List Nat) : Prop where
  size : l.size = 1 + l.capacity
  forwards : Chain 0 l.next l.head active
  backwards : Chain 0 l.previous l.tail active.reverse
  free : Chain 0 l.next l.reserved reserved
  nodes : (active ++ reserved).Perm (List.range' 1 l.capacity)

section Linked

variable {l : ListStruct} {active reserved : List Nat} (h : l.Linked active reserved) {i : Nat}
include h

theorem Linked.nodup : (active ++ reserved).Nodup := h.nodes.nodup_iff.2 List.nodup_range'

theorem Linked.mem_iff : i ∈ active ++ reserved ↔ 1 ≤ i ∧ i ≤ l.capacity := by
  rw [h.nodes.mem_iff, List.mem_range'_1]
  omega

theorem Linked.lt_size (hi : i ∈ active ++ reserved) : i < l.size := by
  have := h.mem_iff.1 hi
  rw [h.size]
  omega

theorem Linked.node_eq (hi : i ∈ active ++ reserved) : l.node i = some (l.reservedMem i) :=
  if_pos (h.lt_size hi)

theorem Linked.length : active.length + reserved.length = l.capacity := by
  have := h.nodes.length_eq
  rwa [List.length_append, List.length_range'] at this

end Linked

/-! ## Loops -/

/-- What a loop computes from the nodes it visits. -/
def fold {σ β : Type} (l : ListStruct) (body : σ → Nat → ListNode → Except β σ) (done : σ → β) :
    σ → List Nat → β
  | s, [] => done s
  | s, index :: rest =>
    match body s index (l.reservedMem index) with
    | .error result => result
    | .ok s => fold l body done s rest

theorem loop_eq {σ β : Type} {l : ListStruct} {body : σ → Nat → ListNode → Except β σ}
    {done : σ → β} {s : σ} {index turns : Nat} {nodes : List Nat}
    (hchain : Chain 0 l.next index nodes) (hnodes : ∀ i ∈ nodes, i < l.size)
    (hturns : nodes.length < turns) :
    l.loop body done turns s index = some (l.fold body done s nodes) := by
  induction nodes generalizing s index turns with
  | nil =>
    obtain ⟨turns, rfl⟩ := Nat.exists_eq_succ_of_ne_zero (Nat.ne_of_gt hturns)
    rw [loop, if_pos (show index = kListNullNode from hchain.path)]
    rfl
  | cons i rest ih =>
    obtain ⟨rfl, hne, hrest⟩ := chain_cons.1 hchain
    obtain ⟨hi, hnodes⟩ := List.forall_mem_cons.1 hnodes
    rw [List.length_cons] at hturns
    obtain ⟨turns, rfl⟩ : ∃ n, turns = n + 1 := ⟨turns - 1, by omega⟩
    rw [loop, if_neg (show ¬ index = kListNullNode from hne), node, if_pos hi,
      Option.bind_eq_bind, Option.bind_some, fold]
    cases body s index (l.reservedMem index) with
    | error result => rfl
    | ok s => exact ih hrest hnodes (by omega)

section Observations

variable {l : ListStruct} {active reserved : List Nat} (h : l.Linked active reserved)
include h

theorem Linked.loop_active {σ β : Type} (body : σ → Nat → ListNode → Except β σ) (done : σ → β)
    (s : σ) : l.loop body done (l.size + 1) s l.head = some (l.fold body done s active) := by
  have hlength := h.length
  have hsize := h.size
  exact loop_eq h.forwards (fun i hi => h.lt_size (List.mem_append_left _ hi)) (by omega)

theorem Linked.loop_reserved {σ β : Type} (body : σ → Nat → ListNode → Except β σ) (done : σ → β)
    (s : σ) : l.loop body done (l.size + 1) s l.reserved = some (l.fold body done s reserved) := by
  have hlength := h.length
  have hsize := h.size
  exact loop_eq h.free (fun i hi => h.lt_size (List.mem_append_right _ hi)) (by omega)

theorem Linked.listIsEmpty_eq : l.listIsEmpty = (active.map l.object).isEmpty := by
  have hhead := h.forwards.start_eq_null
  have htail := h.backwards.start_eq_null
  rw [List.reverse_eq_nil_iff] at htail
  simp only [listIsEmpty, kListNullNode, hhead, htail, and_self, List.isEmpty_map]
  cases active <;> rfl

theorem Linked.listFindNodeIndex_eq (o : Nat) :
    l.listFindNodeIndex o = some ((active.find? fun i => l.object i = o).getD 0) := by
  rw [listFindNodeIndex, h.loop_active]
  congr 1
  clear h
  induction active with
  | nil => rfl
  | cons i active ih =>
    rw [fold]
    by_cases hi : (l.reservedMem i).object = o
    · simp [hi, object]
    · simp [hi, object, ih]

theorem Linked.listFind_eq (compareBlock : Nat → Bool) :
    l.listFind compareBlock = some (((active.map l.object).find? compareBlock).getD 0) := by
  rw [listFind, h.loop_active]
  congr 1
  clear h
  induction active with
  | nil => rfl
  | cons i active ih =>
    rw [fold]
    by_cases hi : compareBlock (l.reservedMem i).object = true
    · simp [hi, object]
    · simp [hi, object, ih]

theorem Linked.listIterate_eq : l.listIterate = some (active.map l.object) := by
  have hfold : ∀ (nodes objects : List Nat),
      l.fold (fun objects _ node => .ok (objects ++ [node.object])) id objects nodes =
        objects ++ nodes.map l.object := by
    intro nodes
    induction nodes with
    | nil => simp [fold]
    | cons i nodes ih => simp [fold, ih, object]
  rw [listIterate, h.loop_active, hfold, List.nil_append]

omit h in
/-- As long as the count is a value of type `int`. -/
theorem fold_count (nodes : List Nat) (n : Nat) (hsmall : n + nodes.length < 2 ^ 31) :
    l.fold (fun count _ _ => .ok ((count + 1).bmod (2 ^ 32))) id (n : Int) nodes =
      ((n + nodes.length : Nat) : Int) := by
  induction nodes generalizing n with
  | nil => rfl
  | cons i nodes ih =>
    rw [List.length_cons] at hsmall ⊢
    have hbmod : ((n : Int) + 1).bmod (2 ^ 32) = ((n + 1 : Nat) : Int) := by
      rw [Int.bmod_eq_of_le (by omega) (by omega)]
      omega
    rw [fold, hbmod]
    rw [show n + (nodes.length + 1) = n + 1 + nodes.length by omega] at hsmall ⊢
    exact ih (n + 1) hsmall

theorem Linked.debugListAddedCount_eq (hsmall : active.length < 2 ^ 31) :
    l.debugListAddedCount = some (active.length : Int) := by
  rw [debugListAddedCount, debugCount, h.loop_active]
  have hcount := fold_count (l := l) active 0 (by omega)
  rw [Nat.zero_add] at hcount
  exact congrArg some hcount

theorem Linked.debugListReservedCount_eq (hsmall : reserved.length < 2 ^ 31) :
    l.debugListReservedCount = some (reserved.length : Int) := by
  rw [debugListReservedCount, debugCount, h.loop_reserved]
  have hcount := fold_count (l := l) reserved 0 (by omega)
  rw [Nat.zero_add] at hcount
  exact congrArg some hcount

end Observations

/-! ## Growth -/

/-- The nodes that the loop of `list_reserve` writes, from the last to the first. -/
theorem weave_eq {l : ListStruct} (i last : Nat) (hsize : l.capacity + i < l.size)
    (hindex : l.capacity + i < 2 ^ 32) :
    ∃ mem, l.weave i last =
        some (if i = 0 then last else l.capacity + 1, { l with reservedMem := mem }) ∧
      (∀ j, j ≤ l.capacity ∨ l.capacity + i < j → mem j = l.reservedMem j) ∧
      ∀ k < i, (mem (l.capacity + 1 + k)).next = if k + 1 = i then last else l.capacity + 2 + k := by
  induction i generalizing l last with
  | zero => exact ⟨l.reservedMem, rfl, fun _ _ => rfl, fun k hk => absurd hk (Nat.not_lt_zero k)⟩
  | succ i ih =>
    have hmod : (l.capacity + (i + 1)) % 2 ^ 32 = l.capacity + (i + 1) := Nat.mod_eq_of_lt hindex
    obtain ⟨mem, hweave, hkept, hnext⟩ :=
      ih (l := l.put (l.capacity + (i + 1)) ⟨0, last, kListNullNode⟩) (l.capacity + (i + 1))
        (by simp only [put_capacity, put_size]; omega) (by simp only [put_capacity]; omega)
    simp only [put_capacity] at hweave hkept hnext
    refine ⟨mem, ?_, ?_, ?_⟩
    · rw [weave, hmod, setNode, if_pos hsize, Option.bind_eq_bind, Option.bind_some, hweave]
      congr 2
      split
      · rename_i hi
        rw [if_neg (Nat.succ_ne_zero i), hi]
      · rw [if_neg (Nat.succ_ne_zero i)]
    · intro j hj
      rw [hkept j (by omega), put_reservedMem, Function.update_of_ne (by omega)]
    · intro k hk
      rcases Nat.lt_or_eq_of_le (Nat.le_of_lt_succ hk) with hk | rfl
      · rw [hnext k hk, if_neg (by omega : ¬ k + 1 = i + 1)]
        split <;> omega
      · rw [hkept _ (by omega), put_reservedMem,
          show l.capacity + 1 + k = l.capacity + (k + 1) by omega, Function.update_self, if_pos rfl]

/-- All nodes are active, and in the block. -/
structure Full (l : ListStruct) (active : List Nat) : Prop where
  forwards : Chain 0 l.next l.head active
  backwards : Chain 0 l.previous l.tail active.reverse
  nodes : active.Perm (List.range' 1 l.capacity)
  inside : ∀ i ∈ active, i < l.size

theorem Linked.full {l : ListStruct} {active : List Nat} (h : l.Linked active []) :
    l.Full active where
  forwards := h.forwards
  backwards := h.backwards
  nodes := List.append_nil active ▸ h.nodes
  inside := fun _ hi => h.lt_size (List.mem_append_left _ hi)

/-- The old nodes stay as they are, the new ones are reserved in order. -/
theorem Full.reserve {l : ListStruct} {active : List Nat} (h : l.Full active) {n : Nat}
    (hn : n < 2 ^ 31) (hcapacity : 1 + l.capacity + n < 2 ^ 32) (memory : Nat → ListNode) :
    ∃ l', l.listReserve n (some memory) = some (l.capacity + n, l') ∧
      l'.Linked active (List.range' (1 + l.capacity) n) ∧ l'.capacity = l.capacity + n ∧
      active.map l'.object = active.map l.object := by
  have hmod : (l.capacity + n) % 2 ^ 32 = l.capacity + n := Nat.mod_eq_of_lt (by omega)
  have hsize : (1 + (l.capacity + n)) % 2 ^ 32 = 1 + (l.capacity + n) :=
    Nat.mod_eq_of_lt (by omega)
  set l₁ := l.realloc (1 + (l.capacity + n)) (some memory) with hl₁
  obtain ⟨mem, hweave, hkept, hnext⟩ := weave_eq (l := l₁) n kListNullNode
    (show l.capacity + n < 1 + (l.capacity + n) by omega)
    (show l.capacity + n < 2 ^ 32 by omega)
  have hcap : l₁.capacity = l.capacity := rfl
  rw [hcap] at hweave hkept hnext
  have hold : ∀ i ∈ active, mem i = l.reservedMem i := by
    intro i hi
    have hle := List.mem_range'_1.1 (h.nodes.mem_iff.1 hi)
    rw [hkept i (by omega)]
    exact if_pos (h.inside i hi)
  refine ⟨{ l₁ with
    reservedMem := mem
    reserved := if n = 0 then kListNullNode else l.capacity + 1
    capacity := l.capacity + n }, ?_, ?_, rfl, ?_⟩
  · rw [listReserve]
    simp only [hmod, hsize, Option.isSome_some, ↓reduceIte, if_pos hn]
    rw [← hl₁, hweave]
    rfl
  · refine ⟨rfl, h.forwards.congr ?_, h.backwards.congr ?_, ⟨?_, ?_⟩, ?_⟩
    · intro i hi
      exact congrArg ListNode.next (hold i hi)
    · intro i hi
      exact congrArg ListNode.previous (hold i (List.mem_reverse.1 hi))
    · -- the new nodes in order, the last of them linked to nothing
      let f : Nat → Nat := fun k => if k = n then 0 else 1 + l.capacity + k
      have hpath : Path (fun i => (mem i).next) (f 0) ((List.range n).map f) (f n) :=
        path_range f n fun k hk => by
          show (mem (if k = n then 0 else 1 + l.capacity + k)).next = _
          rw [if_neg (by omega), show 1 + l.capacity + k = l.capacity + 1 + k by omega,
            hnext k hk]
          simp only [f, kListNullNode]
          split
          · rfl
          · omega
      have hmap : (List.range n).map f = List.range' (1 + l.capacity) n := by
        rw [List.range'_eq_map_range]
        refine List.map_congr_left fun k hk => ?_
        have := List.mem_range.1 hk
        exact if_neg (by omega)
      rw [hmap, show f n = 0 from if_pos rfl] at hpath
      have hstart : f 0 = if n = 0 then kListNullNode else l.capacity + 1 := by
        simp only [f, kListNullNode, eq_comm (a := 0)]
        split
        · rfl
        · omega
      rw [hstart] at hpath
      exact hpath
    · intro hmem
      have := List.mem_range'_1.1 hmem
      omega
    · show (active ++ List.range' (1 + l.capacity) n).Perm (List.range' 1 (l.capacity + n))
      have happend : List.range' 1 (l.capacity + n) =
          List.range' 1 l.capacity ++ List.range' (1 + l.capacity) n := by
        rw [List.range'_append_1]
      rw [happend]
      exact h.nodes.append_right _
  · refine List.map_congr_left fun i hi => ?_
    exact congrArg ListNode.object (hold i hi)

/-! ## Adding -/

theorem Linked.not_mem {l : ListStruct} {active reserved : List Nat} {i : Nat}
    (h : l.Linked active (i :: reserved)) : i ∉ active ∧ i ∉ reserved := by
  obtain ⟨-, hnodup, hdisjoint⟩ := List.nodup_append.1 h.nodup
  exact ⟨fun hmem => hdisjoint i hmem i List.mem_cons_self rfl, (List.nodup_cons.1 hnodup).1⟩

/-- The first reserved node becomes the only active one. -/
theorem Linked.addFirst {l : ListStruct} {reserved : List Nat} {i : Nat}
    (h : l.Linked [] (i :: reserved)) (o : Nat) :
    ∃ l', l.addNode o = some l' ∧ l'.Linked [i] reserved ∧ l'.capacity = l.capacity ∧
      [i].map l'.object = [o] := by
  have hi : i ∈ [] ++ i :: reserved := by simp
  obtain ⟨hstart, hne, hfree⟩ := chain_cons.1 h.free
  have htail : l.tail = 0 := h.backwards.path
  have hnew : (l.put i ⟨o, 0, 0⟩).reservedMem i = ⟨o, 0, 0⟩ := Function.update_self _ _ _
  refine ⟨{ l.put i ⟨o, 0, 0⟩ with reserved := l.next i, head := i, tail := i }, ?_, ?_, rfl, ?_⟩
  · rw [addNode, hstart, h.node_eq hi, Option.bind_eq_bind, Option.bind_some]
    have hwrite : ({ l with reserved := l.next i } : ListStruct).setNode i
        ⟨o, kListNullNode, kListNullNode⟩ =
        some ({ l with reserved := l.next i }.put i ⟨o, 0, 0⟩) := if_pos (h.lt_size hi)
    show (({ l with reserved := l.next i } : ListStruct).setNode i
      ⟨o, kListNullNode, kListNullNode⟩).bind _ = _
    rw [hwrite, Option.bind_some]
    simp only [put_tail, htail, kListNullNode, ne_eq, not_true_eq_false, ↓reduceIte]
    rfl
  · refine ⟨h.size, chain_cons.2 ⟨rfl, hne, ?_⟩, chain_cons.2 ⟨rfl, hne, ?_⟩, ?_, h.nodes⟩
    · exact chain_nil.2 (congrArg ListNode.next hnew)
    · exact chain_nil.2 (congrArg ListNode.previous hnew)
    · refine hfree.congr fun j hj => ?_
      have hji : j ≠ i := fun heq => h.not_mem.2 (heq ▸ hj)
      exact congrArg ListNode.next (Function.update_of_ne hji _ _)
  · exact congrArg (fun node => [ListNode.object node]) hnew

/-- The first reserved node is linked in behind the tail. -/
theorem Linked.addBehind {l : ListStruct} {as reserved : List Nat} {t i : Nat}
    (h : l.Linked (as ++ [t]) (i :: reserved)) (o : Nat) :
    ∃ l', l.addNode o = some l' ∧ l'.Linked (as ++ [t] ++ [i]) reserved ∧
      l'.capacity = l.capacity ∧
      (as ++ [t] ++ [i]).map l'.object = (as ++ [t]).map l.object ++ [o] := by
  have hi : i ∈ as ++ [t] ++ i :: reserved := by simp
  have ht : t ∈ as ++ [t] ++ i :: reserved := by simp
  obtain ⟨hinactive, hunreserved⟩ := h.not_mem
  have hti : t ≠ i := fun heq => hinactive (by simp [heq])
  obtain ⟨htas, htreserved⟩ : t ∉ as ∧ t ∉ reserved := by
    have hnodup := h.nodup
    simp only [List.nodup_append, List.nodup_cons, List.mem_cons, List.mem_append] at hnodup
    exact ⟨fun hmem => hnodup.1.2.2 t hmem t (.inl rfl) rfl,
      fun hmem => hnodup.2.2 t (.inr (.inl rfl)) t (.inr hmem) rfl⟩
  obtain ⟨hstart, hne, hfree⟩ := chain_cons.1 h.free
  have hback := h.backwards
  rw [List.reverse_append, List.reverse_singleton, List.singleton_append] at hback
  obtain ⟨htail, htne, -⟩ := chain_cons.1 hback
  set mem := Function.update (Function.update l.reservedMem i ⟨o, 0, t⟩) t
    { l.reservedMem t with next := i } with hmem
  have hnew : mem i = ⟨o, 0, t⟩ := by
    rw [hmem, Function.update_of_ne hti.symm, Function.update_self]
  have hlast : mem t = { l.reservedMem t with next := i } := Function.update_self _ _ _
  have hother : ∀ j, j ≠ i → j ≠ t → mem j = l.reservedMem j := by
    intro j hji hjt
    rw [hmem, Function.update_of_ne hjt, Function.update_of_ne hji]
  have hactive : ∀ j ∈ as, mem j = l.reservedMem j := by
    intro j hj
    exact hother j (fun heq => hinactive (by simp [← heq, hj])) fun heq => htas (heq ▸ hj)
  have hsame : ∀ j ∈ as ++ [t], (mem j).object = l.object j ∧ (mem j).previous = l.previous j := by
    intro j hj
    rcases List.mem_append.1 hj with hj | hj
    · rw [hactive j hj]
      exact ⟨rfl, rfl⟩
    · rw [List.mem_singleton.1 hj, hlast]
      exact ⟨rfl, rfl⟩
  refine ⟨{ l with reservedMem := mem, reserved := l.next i, tail := i }, ?_, ?_, rfl, ?_⟩
  · have hisize := h.lt_size hi
    have htsize := h.lt_size ht
    have hcomm : Function.update (Function.update (Function.update l.reservedMem i ⟨o, 0, 0⟩) t
        { l.reservedMem t with next := i }) i ⟨o, 0, t⟩ = mem := by
      rw [hmem, Function.update_comm hti, Function.update_idem]
    simp only [ListStruct.addNode, hstart, node, setNode, hisize, htail, htsize, htne,
      kListNullNode, ne_eq, not_false_eq_true, ↓reduceIte, Option.bind_eq_bind, Option.bind_some,
      put_size, put_tail,
      put_reservedMem, Function.update_self, Function.update_of_ne hti,
      Function.update_of_ne hti.symm]
    rw [← hcomm]
    rfl
  · refine ⟨h.size, ?_, ?_, ?_, ?_⟩
    · refine h.forwards.extend ?_ ?_ hne fun j hj => ?_
      · exact congrArg ListNode.next hlast
      · exact congrArg ListNode.next hnew
      · exact congrArg ListNode.next (hactive j hj)
    · rw [List.reverse_append, List.reverse_singleton, List.singleton_append, chain_cons]
      refine ⟨rfl, hne, ?_⟩
      rw [show previous { l with reservedMem := mem, reserved := l.next i, tail := i } i = l.tail
        from (congrArg ListNode.previous hnew).trans htail.symm]
      exact h.backwards.congr fun j hj => (hsame j (List.mem_reverse.1 hj)).2
    · refine hfree.congr fun j hj => ?_
      exact congrArg ListNode.next
        (hother j (fun heq => hunreserved (heq ▸ hj)) fun heq => htreserved (heq ▸ hj))
    · show (as ++ [t] ++ [i] ++ reserved).Perm (List.range' 1 l.capacity)
      rw [List.append_assoc]
      exact h.nodes
  · rw [List.map_append]
    congr 1
    · exact List.map_congr_left fun j hj => (hsame j hj).1
    · exact congrArg (fun node => [ListNode.object node]) hnew

theorem Linked.add {l : ListStruct} {active reserved : List Nat} {i : Nat}
    (h : l.Linked active (i :: reserved)) (o : Nat) :
    ∃ l', l.addNode o = some l' ∧ l'.Linked (active ++ [i]) reserved ∧ l'.capacity = l.capacity ∧
      (active ++ [i]).map l'.object = active.map l.object ++ [o] := by
  rcases List.eq_nil_or_concat active with rfl | ⟨as, t, rfl⟩
  · exact h.addFirst o
  · rw [List.concat_eq_append] at h ⊢
    exact h.addBehind o

/-- `list_add` when no node is reserved: it makes room. -/
theorem Full.listAdd {l : ListStruct} {active : List Nat} (h : l.Full active)
    (hreserved : l.reserved = 0) (hsmall : 1 + l.capacity + kListDefaultCapacity < 2 ^ 32)
    (o : Nat) (memory : Nat → ListNode) :
    ∃ l' i reserved', l.listAdd o (some memory) = some l' ∧ l'.Linked (active ++ [i]) reserved' ∧
      l'.capacity = l.capacity + kListDefaultCapacity ∧
      (active ++ [i]).map l'.object = active.map l.object ++ [o] := by
  obtain ⟨l₁, hreserve, hlinked, hcapacity, hobjects⟩ :=
    h.reserve (n := kListDefaultCapacity) (by decide) hsmall memory
  obtain ⟨l', hadd, hlinked', hcapacity', hobjects'⟩ := Linked.add hlinked o
  refine ⟨l', _, _, ?_, hlinked', hcapacity'.trans hcapacity, ?_⟩
  · rw [ListStruct.listAdd, if_pos (show l.reserved = kListNullNode from hreserved), hreserve,
      Option.bind_eq_bind, Option.bind_some]
    simp only [if_neg (show ¬ l.capacity + kListDefaultCapacity = 0 by simp [kListDefaultCapacity])]
    exact hadd
  · rw [hobjects', hobjects]

/-- `list_add` when a node is reserved: it needs no memory. -/
theorem Linked.listAdd {l : ListStruct} {active reserved : List Nat} {i : Nat}
    (h : l.Linked active (i :: reserved)) (o : Nat) (memory : Option (Nat → ListNode)) :
    ∃ l', l.listAdd o memory = some l' ∧ l'.Linked (active ++ [i]) reserved ∧
      l'.capacity = l.capacity ∧ (active ++ [i]).map l'.object = active.map l.object ++ [o] := by
  obtain ⟨hstart, hne, -⟩ := chain_cons.1 h.free
  obtain ⟨l', hadd, hlinked', hcapacity', hobjects'⟩ := h.add o
  refine ⟨l', ?_, hlinked', hcapacity', hobjects'⟩
  rw [ListStruct.listAdd, if_neg (show ¬ l.reserved = kListNullNode from hstart ▸ hne), hadd]

/-! ## Removing -/

/-- The node before `i` and the node after it, if there are such, are linked to each other. -/
structure Unlinks (l l' : ListStruct) (i : Nat) : Prop where
  size : l'.size = l.size
  capacity : l'.capacity = l.capacity
  reserved : l'.reserved = l.reserved
  head : l'.head = if l.previous i = 0 then l.next i else l.head
  tail : l'.tail = if l.next i = 0 then l.previous i else l.tail
  object : ∀ j, l'.object j = l.object j
  next : ∀ j, l'.next j = if l.previous i ≠ 0 ∧ j = l.previous i then l.next i else l.next j
  previous : ∀ j, l'.previous j =
    if l.next i ≠ 0 ∧ j = l.next i then l.previous i else l.previous j

section Unlinks

variable {l : ListStruct} {i p n : Nat} {o : Nat}

/-- Neither neighbour. -/
theorem unlinks_only (hnode : l.reservedMem i = ⟨o, 0, 0⟩) :
    l.Unlinks { l with head := 0, tail := 0 } i := by
  constructor <;> simp [ListStruct.next, ListStruct.previous, ListStruct.object, hnode]

theorem unlinks_head (hnode : l.reservedMem i = ⟨o, n, 0⟩) (hn : n ≠ 0) :
    l.Unlinks { l.put n { l.reservedMem n with previous := 0 } with head := n } i := by
  constructor <;> try intro j
  all_goals simp [ListStruct.next, ListStruct.previous, ListStruct.object, hnode, hn]
  all_goals by_cases hj : j = n <;> simp [hj]

theorem unlinks_tail (hnode : l.reservedMem i = ⟨o, 0, p⟩) (hp : p ≠ 0) :
    l.Unlinks ({ l with tail := p }.put p { l.reservedMem p with next := 0 }) i := by
  constructor <;> try intro j
  all_goals simp [ListStruct.next, ListStruct.previous, ListStruct.object, hnode, hp]
  all_goals by_cases hj : j = p <;> simp [hj]

theorem unlinks_between (hnode : l.reservedMem i = ⟨o, n, p⟩) (hp : p ≠ 0) (hn : n ≠ 0) :
    let l' := l.put p { l.reservedMem p with next := n }
    l.Unlinks (l'.put n { l'.reservedMem n with previous := p }) i := by
  have hobject : ∀ j, (Function.update l.reservedMem p
      { l.reservedMem p with next := n } j).object = l.object j := by
    intro j
    by_cases hj : j = p <;> simp [ListStruct.object, hj]
  have hprevious : ∀ j, (Function.update l.reservedMem p
      { l.reservedMem p with next := n } j).previous = l.previous j := by
    intro j
    by_cases hj : j = p <;> simp [ListStruct.previous, hj]
  have hnext : ∀ j, (Function.update l.reservedMem p
      { l.reservedMem p with next := n } j).next = if j = p then n else l.next j := by
    intro j
    by_cases hj : j = p <;> simp [ListStruct.next, hj]
  constructor <;> try intro j
  all_goals simp [ListStruct.next, ListStruct.previous, ListStruct.object, hnode, hp, hn]
  all_goals by_cases hj : j = n
  all_goals simp [hj, hobject, hprevious, hnext, ListStruct.object, ListStruct.previous,
    ListStruct.next]

/-- The four cases of `list_remove`. -/
theorem unlink_unlinks (hi : i < l.size) (hnode : l.reservedMem i = ⟨o, n, p⟩)
    (hn : n ≠ 0 → n < l.size ∧ n ≠ i) (hp : p ≠ 0 → p < l.size ∧ p ≠ i) :
    ∃ l', l.unlink i = some l' ∧ l.Unlinks l' i := by
  rw [ListStruct.unlink]
  simp only [node, hi, ↓reduceIte, Option.bind_eq_bind, Option.bind_some, setNode, hnode,
    kListNullNode]
  by_cases hp0 : p = 0
  · by_cases hn0 : n = 0
    · subst hp0 hn0
      exact ⟨_, rfl, unlinks_only hnode⟩
    · subst hp0
      obtain ⟨hn, hin⟩ := hn hn0
      refine ⟨_, ?_, unlinks_head hnode hn0⟩
      simp [hn0, hn, hi, Function.update_of_ne hin.symm, hnode]
  · obtain ⟨hp, hip⟩ := hp hp0
    by_cases hn0 : n = 0
    · subst hn0
      refine ⟨_, ?_, unlinks_tail hnode hp0⟩
      simp [hp0, hp]
    · obtain ⟨hn, hin⟩ := hn hn0
      refine ⟨_, ?_, unlinks_between hnode hp0 hn0⟩
      simp [hp0, hn0, hp, hn, hi, Function.update_of_ne hip.symm, hnode]

/-- What `list_remove` does with the node that it has unlinked. -/
def giveBack (l : ListStruct) (index : Nat) : ListStruct :=
  { l.put index { l.reservedMem index with next := l.reserved, previous := 0 } with
    reserved := index }

theorem listRemove_of_find (hfind : l.listFindNodeIndex o = some i) :
    l.listRemove o = (l.unlink i).bind fun l' =>
      if i < l'.size then some (l'.giveBack i) else none := by
  rw [ListStruct.listRemove, hfind, Option.bind_eq_bind, Option.bind_some]
  refine Option.bind_congr fun l' _ => ?_
  by_cases hinside : i < l'.size <;> simp [node, setNode, hinside, giveBack, kListNullNode]

variable {j : Nat} (l)

theorem giveBack_next (hj : j ≠ i) : (l.giveBack i).next j = l.next j :=
  congrArg ListNode.next (Function.update_of_ne hj _ _)

theorem giveBack_previous (hj : j ≠ i) : (l.giveBack i).previous j = l.previous j :=
  congrArg ListNode.previous (Function.update_of_ne hj _ _)

theorem giveBack_next_self (i : Nat) : (l.giveBack i).next i = l.reserved := by
  simp [giveBack, ListStruct.next]

@[simp]
theorem giveBack_object (i j : Nat) : (l.giveBack i).object j = l.object j := by
  by_cases hj : j = i <;> simp [giveBack, object, hj]

end Unlinks

section Removing

variable {l : ListStruct} {as bs reserved : List Nat} {i : Nat}
  (h : l.Linked (as ++ i :: bs) reserved)
include h

theorem Linked.next_eq : l.next i = bs.head?.getD 0 := by
  obtain ⟨b, -, hchain⟩ := h.forwards.of_append
  exact (chain_cons.1 hchain).2.2.start_eq

theorem Linked.previous_eq : l.previous i = as.getLast?.getD 0 := by
  have hback := h.backwards
  rw [List.reverse_append, List.reverse_cons, List.append_assoc, List.singleton_append] at hback
  obtain ⟨b, -, hchain⟩ := hback.of_append
  rw [← List.head?_reverse]
  exact (chain_cons.1 hchain).2.2.start_eq

theorem Linked.next_eq_zero : l.next i = 0 ↔ bs = [] := by
  obtain ⟨b, -, hchain⟩ := h.forwards.of_append
  exact (chain_cons.1 hchain).2.2.start_eq_null

theorem Linked.previous_eq_zero : l.previous i = 0 ↔ as = [] := by
  have hback := h.backwards
  rw [List.reverse_append, List.reverse_cons, List.append_assoc, List.singleton_append] at hback
  obtain ⟨b, -, hchain⟩ := hback.of_append
  rw [← List.reverse_eq_nil_iff]
  exact (chain_cons.1 hchain).2.2.start_eq_null

theorem Linked.head?_eq (hzero : l.next i ≠ 0) : bs.head? = some (l.next i) := by
  rw [h.next_eq] at hzero ⊢
  cases bs with
  | nil => exact absurd rfl hzero
  | cons b bs => rfl

theorem Linked.getLast?_eq (hzero : l.previous i ≠ 0) : as.getLast? = some (l.previous i) := by
  rw [h.previous_eq] at hzero ⊢
  cases hlast : as.getLast? with
  | none => exact absurd (by rw [hlast]; rfl) hzero
  | some a => rfl

theorem Linked.pos {j : Nat} (hj : j ∈ as ++ i :: bs ++ reserved) : j ≠ 0 := by
  have := (h.mem_iff.1 hj).1
  omega

/-- The node is in no other place. -/
theorem Linked.apart {j : Nat} (hj : j ∈ as ++ bs ++ reserved) : j ≠ i := by
  have hnodup := h.nodup
  simp only [List.nodup_append, List.nodup_cons, List.mem_append, List.mem_cons] at hnodup hj
  rintro rfl
  rcases hj with (hj | hj) | hj
  · exact hnodup.1.2.2 j hj j (.inl rfl) rfl
  · exact hnodup.1.2.1.1 hj
  · exact hnodup.2.2 j (.inr (.inl rfl)) j hj rfl

theorem Linked.unlink : ∃ l', l.unlink i = some l' ∧ l.Unlinks l' i := by
  have hneighbour : ∀ j ∈ as ++ bs ++ reserved, j < l.size ∧ j ≠ i := by
    intro j hj
    refine ⟨h.lt_size ?_, h.apart hj⟩
    simp only [List.mem_append, List.mem_cons] at hj ⊢
    tauto
  refine unlink_unlinks (h.lt_size (by simp)) rfl (fun hnext => ?_) fun hprevious => ?_
  · have hmem : l.next i ∈ bs := List.mem_of_mem_head? (h.head?_eq hnext)
    exact hneighbour (l.next i) (by simp [hmem])
  · have hmem : l.previous i ∈ as := List.mem_of_getLast? (h.getLast?_eq hprevious)
    exact hneighbour (l.previous i) (by simp [hmem])

/-- The node is reserved again. -/
theorem Linked.returned {l' : ListStruct} (hl' : l.Unlinks l' i) :
    (l'.giveBack i).Linked (as ++ bs) (i :: reserved) := by
  have hnext'' : ∀ j, j ≠ i → (l'.giveBack i).next j = l'.next j := fun j => giveBack_next l'
  have hprevious'' : ∀ j, j ≠ i → (l'.giveBack i).previous j = l'.previous j := fun j =>
    giveBack_previous l'
  have hnexti : (l'.giveBack i).next i = l.reserved := (giveBack_next_self l' i).trans hl'.reserved
  have hne : ∀ j ∈ as ++ bs, j ≠ i := fun j hj => h.apart (List.mem_append_left _ hj)
  have hpos : ∀ j ∈ as ++ bs, j ≠ 0 := by
    intro j hj
    refine h.pos ?_
    simp only [List.mem_append, List.mem_cons] at hj ⊢
    tauto
  refine ⟨?_, ?_, ?_, ?_, ?_⟩
  · show l'.size = 1 + l'.capacity
    rw [hl'.size, hl'.capacity, h.size]
  · refine h.forwards.bypass ?_ (fun j hj hlast => ?_) fun j hj hlast => ?_
    · show l'.head = _
      rw [hl'.head]
      exact if_congr h.previous_eq_zero rfl rfl
    · have hj' : l.previous i = j := by rw [h.previous_eq, hlast, Option.getD_some]
      rw [hnext'' j (hne j hj), hl'.next, hj', if_pos ⟨hpos j hj, rfl⟩]
    · rw [hnext'' j (hne j hj), hl'.next, if_neg]
      rintro ⟨hzero, rfl⟩
      exact hlast (h.getLast?_eq hzero)
  · have hback := h.backwards
    rw [List.reverse_append, List.reverse_cons, List.append_assoc, List.singleton_append] at hback
    rw [List.reverse_append]
    have hmem : ∀ j ∈ bs.reverse ++ as.reverse, j ∈ as ++ bs := by
      intro j hj
      rw [← List.reverse_append, List.mem_reverse] at hj
      exact hj
    refine hback.bypass ?_ (fun j hj hlast => ?_) fun j hj hlast => ?_
    · show l'.tail = _
      rw [hl'.tail]
      exact if_congr (h.next_eq_zero.trans List.reverse_eq_nil_iff.symm) rfl rfl
    · have hj' : l.next i = j := by
        rw [h.next_eq, ← List.getLast?_reverse, hlast, Option.getD_some]
      rw [hprevious'' j (hne j (hmem j hj)), hl'.previous, hj', if_pos ⟨hpos j (hmem j hj), rfl⟩]
    · rw [hprevious'' j (hne j (hmem j hj)), hl'.previous, if_neg]
      rintro ⟨hzero, rfl⟩
      rw [List.getLast?_reverse] at hlast
      exact hlast (h.head?_eq hzero)
  · refine chain_cons.2 ⟨rfl, h.pos (by simp), hnexti ▸ h.free.congr fun j hj => ?_⟩
    have hji : j ≠ i := h.apart (List.mem_append_right _ hj)
    rw [hnext'' j hji, hl'.next, if_neg]
    rintro ⟨hzero, rfl⟩
    -- the node before `i` is not a reserved one
    have hlast := List.mem_of_getLast? (h.getLast?_eq hzero)
    exact (List.nodup_append.1 h.nodup).2.2 _ (List.mem_append_left _ hlast) _ hj rfl
  · show (as ++ bs ++ i :: reserved).Perm (List.range' 1 l'.capacity)
    rw [hl'.capacity]
    refine List.Perm.trans ?_ h.nodes
    have hperm : (as ++ bs ++ i :: reserved).Perm (i :: (as ++ bs ++ reserved)) :=
      List.perm_middle
    have hperm' : (as ++ i :: bs ++ reserved).Perm (i :: (as ++ bs ++ reserved)) :=
      (List.perm_middle.append_right reserved)
    exact hperm.trans hperm'.symm

end Removing

/-- `list_remove` of an object that is there. -/
theorem Linked.listRemove {l : ListStruct} {active reserved : List Nat}
    (h : l.Linked active reserved) {o : Nat} (ho : o ∈ active.map l.object) :
    ∃ l' active' i, l.listRemove o = some l' ∧ l'.Linked active' (i :: reserved) ∧
      active'.map l'.object = (active.map l.object).erase o := by
  obtain ⟨i, hfind⟩ : ∃ i, active.find? (fun i => l.object i = o) = some i := by
    obtain ⟨j, hj, hjo⟩ := List.mem_map.1 ho
    exact Option.isSome_iff_exists.1 (List.find?_isSome.2 ⟨j, hj, by simpa using hjo⟩)
  obtain ⟨hio, as, bs, rfl, has⟩ := List.find?_eq_some_iff_append.1 hfind
  simp only [decide_eq_true_eq] at hio
  have hsearch : l.listFindNodeIndex o = some i := by
    rw [h.listFindNodeIndex_eq, hfind, Option.getD_some]
  obtain ⟨l', hunlink, hl'⟩ := h.unlink
  have hinside : i < l'.size := hl'.size ▸ h.lt_size (by simp)
  refine ⟨_, as ++ bs, i, ?_, h.returned hl', ?_⟩
  · rw [listRemove_of_find hsearch, hunlink, Option.bind_some, if_pos hinside]
  · have hnot : o ∉ as.map l.object := by
      intro hmem
      obtain ⟨j, hj, hjo⟩ := List.mem_map.1 hmem
      have := has j hj
      simp [hjo] at this
    have hobject : ∀ j, (l'.giveBack i).object j = l.object j := fun j =>
      (giveBack_object l' i j).trans (hl'.object j)
    rw [List.map_congr_left fun j _ => hobject j, List.map_append, List.map_append, List.map_cons,
      hio, List.erase_append_right _ hnot, List.erase_cons_head]

end ListStruct

/-! ## Runs -/

/-- The list is the sequence: its links, what it tells about itself, and the reserved nodes. -/
structure ListStruct.Refines (l : ListStruct) (objects : List Nat) : Prop where
  nodes : ∃ active reserved,
    Chain 0 l.next l.head active ∧ active.map l.object = objects ∧
    Chain 0 l.previous l.tail active.reverse ∧ Chain 0 l.next l.reserved reserved ∧
    active.Nodup ∧ reserved.Nodup ∧ active.Disjoint reserved ∧
    ∀ i, i ∈ active ∨ i ∈ reserved ↔ 1 ≤ i ∧ i ≤ l.capacity
  isEmpty : l.listIsEmpty = objects.isEmpty
  find : ∀ compareBlock, l.listFind compareBlock = some ((objects.find? compareBlock).getD 0)
  iterate : l.listIterate = some objects
  addedCount : l.debugListAddedCount = some (objects.length : Int)
  reservedCount : l.debugListReservedCount = some ((l.capacity - objects.length : Nat) : Int)

/-- A list with the sequence that it should be. -/
structure ListRun where
  list : ListStruct
  objects : List Nat

inductive ListOp
  /-- With the memory that `realloc` finds, if the list grows. -/
  | add (o : Nat) (memory : Nat → ListNode)
  | remove (o : Nat)

namespace ListRun

def step (r : ListRun) : ListOp → Option ListRun
  | .add o memory => (r.list.listAdd o (some memory)).map fun list => ⟨list, r.objects ++ [o]⟩
  | .remove o => (r.list.listRemove o).map fun list => ⟨list, r.objects.erase o⟩

/-- Removed objects are present. -/
def Present (r : ListRun) : ListOp → Prop
  | .add _ _ => True
  | .remove o => o ∈ r.objects

/-- Neither the objects nor the reserved nodes become more than an `int` counts. -/
def Countable (r : ListRun) : ListOp → Prop
  | .add _ _ => r.objects.length + 1 < 2 ^ 31
  | .remove _ => r.list.capacity - r.objects.length + 1 < 2 ^ 31

/-- The nodes are linked, and the counters have a value. -/
structure Kept (r : ListRun) (active reserved : List Nat) : Prop where
  linked : r.list.Linked active reserved
  objects : active.map r.list.object = r.objects
  active : active.length < 2 ^ 31
  reserved : reserved.length < 2 ^ 31

theorem Kept.refines {r : ListRun} {active reserved : List Nat} (h : r.Kept active reserved) :
    r.list.Refines r.objects := by
  obtain ⟨hactive, hreserved, hdisjoint⟩ := List.nodup_append.1 h.linked.nodup
  have hlength := h.linked.length
  have hobjects : r.objects.length = active.length := by rw [← h.objects, List.length_map]
  rw [← h.objects]
  refine ⟨⟨active, reserved, h.linked.forwards, rfl, h.linked.backwards, h.linked.free, hactive,
    hreserved, ?_, ?_⟩, h.linked.listIsEmpty_eq, h.linked.listFind_eq, h.linked.listIterate_eq,
    ?_, ?_⟩
  · exact fun i hi hi' => hdisjoint i hi i hi' rfl
  · exact fun i => List.mem_append.symm.trans h.linked.mem_iff
  · rw [List.length_map]
    exact h.linked.debugListAddedCount_eq h.active
  · rw [List.length_map, h.linked.debugListReservedCount_eq h.reserved]
    congr 2
    omega

theorem Kept.step {r : ListRun} {active reserved : List Nat} (h : r.Kept active reserved)
    (op : ListOp) (hpresent : r.Present op) (hcountable : r.Countable op) :
    ∃ r', r.step op = some r' ∧ ∃ active' reserved', r'.Kept active' reserved' := by
  have hlength : r.objects.length = active.length := by rw [← h.objects, List.length_map]
  have hnodes := h.linked.length
  have hreserved := h.reserved
  cases op with
  | add o memory =>
    have hsmall : active.length + 1 < 2 ^ 31 := hlength ▸ hcountable
    obtain ⟨l', i, reserved', hadd, hlinked, hobjects, hle⟩ : ∃ l' i reserved',
        r.list.listAdd o (some memory) = some l' ∧ l'.Linked (active ++ [i]) reserved' ∧
        (active ++ [i]).map l'.object = active.map r.list.object ++ [o] ∧
        reserved'.length < 2 ^ 31 := by
      cases reserved with
      | nil =>
        have hgrown : 1 + r.list.capacity + kListDefaultCapacity < 2 ^ 32 := by
          rw [List.length_nil] at hnodes
          rw [kListDefaultCapacity]
          omega
        obtain ⟨l', i, reserved', hadd, hlinked, hcapacity, hobjects⟩ :=
          h.linked.full.listAdd h.linked.free.path hgrown o memory
        refine ⟨l', i, reserved', hadd, hlinked, hobjects, ?_⟩
        have hlength' := hlinked.length
        rw [List.length_nil] at hnodes
        rw [hcapacity, kListDefaultCapacity, List.length_append, List.length_singleton] at hlength'
        omega
      | cons i reserved =>
        obtain ⟨l', hadd, hlinked, -, hobjects⟩ := h.linked.listAdd o (some memory)
        rw [List.length_cons] at hreserved
        exact ⟨l', i, reserved, hadd, hlinked, hobjects, by omega⟩
    refine ⟨⟨l', r.objects ++ [o]⟩, by rw [ListRun.step, hadd]; rfl, _, reserved', hlinked, ?_, ?_,
      hle⟩
    · rw [hobjects, h.objects]
    · rw [List.length_append, List.length_singleton]
      exact hsmall
  | remove o =>
    have hsmall : r.list.capacity - r.objects.length + 1 < 2 ^ 31 := hcountable
    have ho : o ∈ active.map r.list.object := h.objects.symm ▸ (show o ∈ r.objects from hpresent)
    obtain ⟨l', active', i, hremove, hlinked, hobjects⟩ := h.linked.listRemove ho
    have hlength' : active'.length ≤ active.length := by
      rw [← List.length_map, hobjects]
      exact List.length_erase_le.trans_eq (List.length_map _)
    refine ⟨⟨l', r.objects.erase o⟩, by rw [ListRun.step, hremove]; rfl, active', i :: reserved,
      hlinked, ?_, ?_, ?_⟩
    · rw [hobjects, h.objects]
    · have := h.active
      omega
    · rw [List.length_cons]
      omega

end ListRun

/-- The list can be created, and in every run whose steps meet `ok` it is the sequence of its
objects. -/
def ListRefines (initialCapacity : Nat) (memory : Nat → ListNode) (ok : ListRun → ListOp → Prop) :
    Prop :=
  ∃ l, listCreate initialCapacity (some memory) = some l ∧
    ∀ ops, Along ListRun.step ok ⟨l, []⟩ ops →
      ∃ r, run ListRun.step ⟨l, []⟩ ops = some r ∧ r.list.Refines r.objects

/-- A new list, of which no node is in use. -/
theorem listCreate_linked {initialCapacity : Nat} (hinitial : initialCapacity < 2 ^ 31)
    (memory : Nat → ListNode) : ∃ l, listCreate initialCapacity (some memory) = some l ∧
      l.Linked [] (List.range' 1 initialCapacity) := by
  let l₀ : ListStruct := ⟨0, 0, 0, fun _ => ⟨0, 0, 0⟩, 0, 0⟩
  have hfull : l₀.Full [] := ⟨chain_nil.2 rfl, chain_nil.2 rfl, List.Perm.refl _, by simp⟩
  have hcapacity : 1 + l₀.capacity + initialCapacity < 2 ^ 32 := by
    show 1 + 0 + initialCapacity < 2 ^ 32
    omega
  obtain ⟨l, hreserve, hlinked, -, -⟩ := hfull.reserve hinitial hcapacity memory
  refine ⟨l, ?_, hlinked⟩
  show (l₀.listReserve initialCapacity (some memory)).bind _ = _
  rw [hreserve]
  rfl

/-- **The list is a sequence**, in every run from an initial capacity of type `int` in which the
counters keep to this type. -/
theorem list_refines (initialCapacity : Nat) (hinitial : initialCapacity < 2 ^ 31)
    (memory : Nat → ListNode) :
    ListRefines initialCapacity memory fun r op => r.Present op ∧ r.Countable op := by
  obtain ⟨l, hcreate, hlinked⟩ := listCreate_linked hinitial memory
  have hkept : ∃ active reserved, ListRun.Kept ⟨l, []⟩ active reserved := by
    refine ⟨[], _, hlinked, rfl, by decide, ?_⟩
    rw [List.length_range']
    exact hinitial
  refine ⟨l, hcreate, fun ops hops => ?_⟩
  obtain ⟨r, hr, active, reserved, hkept⟩ := run_along_safe
    (P := fun r : ListRun => ∃ active reserved, r.Kept active reserved) hkept
    (fun r op ⟨active, reserved, h⟩ hop => h.step op hop.1 hop.2) hops
  exact ⟨r, hr, hkept.refines⟩

/-- From a list without nodes on. -/
theorem list_refines_empty :
    ListRefines 0 (fun _ => ⟨0, 0, 0⟩) fun r op => r.Present op ∧ r.Countable op :=
  list_refines 0 (by decide) _

/-- None of the nodes is reserved when the counter of the loop is negative. -/
theorem list_unwoven : ¬ ListRefines (2 ^ 31) (fun _ => ⟨0, 0, 0⟩) ListRun.Present := by
  rintro ⟨l, hcreate, hrun⟩
  obtain ⟨r, hr, hrefines⟩ := hrun [] trivial
  cases hr
  obtain ⟨active, reserved, -, hactive, -, hreserved, -, -, -, hnodes⟩ := hrefines.nodes
  simp [listCreate, ListStruct.listReserve, ListStruct.weave, ListStruct.realloc] at hcreate
  subst hcreate
  rw [List.map_eq_nil_iff] at hactive
  have hnone : reserved = [] := hreserved.start_eq_null.1 rfl
  have hfirst := (hnodes 1).2 ⟨Nat.le_refl 1, by simp⟩
  rw [hactive, hnone] at hfirst
  simp at hfirst

end UniversalNetwork
