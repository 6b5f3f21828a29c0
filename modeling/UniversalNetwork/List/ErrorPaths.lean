import UniversalNetwork.List.Refinement

/-!
# The error paths of the linked list

`list_remove` does not look at whether its object was found: for an absent one it unlinks slot 0 of
the block, which is not a node, and makes it the only reserved node. `list_add` overwrites
`reserved_mem` with what `realloc` returns, also when that is `NULL`.

A run of calls goes on through such errors as long as they do no harm (`ListRun.Expected`).

* `list_remove_absent_iff`: the removal of an absent object changes nothing just when no node is
  reserved and slot 0 is linked as a node between the tail and the head, or between two
  neighbours, would be.
* `list_add_failed_iff`: a list survives a failed growth just when it is empty.
-/

namespace UniversalNetwork

open Lib

namespace ListStruct

/-- The objects of the list in both directions, and its reserved nodes. -/
structure Represents (l : ListStruct) (objects reserved : List Nat) : Prop where
  sequence : ∃ active, Chain 0 l.next l.head active ∧ Chain 0 l.previous l.tail active.reverse ∧
    active.map l.object = objects ∧ ∀ i ∈ active, i < l.size
  free : Chain 0 l.next l.reserved reserved

/-- `list_remove` is a no-op. -/
def RemovesNothing (l : ListStruct) (o : Nat) : Prop :=
  ∃ l', l.listRemove o = some l' ∧ l'.capacity = l.capacity ∧
    ∀ objects reserved, l.Represents objects reserved → l'.Represents objects reserved

/-- No node is reserved, and slot 0 is linked to two neighbours, with index 0 after the tail and
before the head. -/
def SlotZeroBetween (l : ListStruct) : Prop :=
  l.reserved = 0 ∧ 0 < l.size ∧ l.next 0 < l.size ∧ l.previous 0 < l.size ∧
    (if l.previous 0 = 0 then l.head else l.next (l.previous 0)) = l.next 0 ∧
    (if l.next 0 = 0 then l.tail else l.previous (l.next 0)) = l.previous 0

instance (l : ListStruct) : Decidable l.SlotZeroBetween :=
  inferInstanceAs (Decidable (_ ∧ _))

/-! ## Removing an absent object -/

section Absent

variable {l l' : ListStruct} {active reserved : List Nat} {o : Nat}

/-- Otherwise there is an access outside the block. -/
theorem unlink_zero_inside (h : l.unlink 0 = some l') :
    0 < l.size ∧ l.next 0 < l.size ∧ l.previous 0 < l.size := by
  have hsize : 0 < l.size := by
    by_contra hzero
    simp [ListStruct.unlink, node, hzero] at h
  have hnode : l.reservedMem 0 = ⟨l.object 0, l.next 0, l.previous 0⟩ := rfl
  simp only [ListStruct.unlink, node, setNode, hsize, ↓reduceIte, Option.bind_eq_bind,
    Option.bind_some, kListNullNode, hnode] at h
  refine ⟨hsize, ?_, ?_⟩
  · by_cases hnext : l.next 0 = 0
    · rwa [hnext]
    by_contra hout
    by_cases hprevious : l.previous 0 = 0
    · simp [hnext, hprevious, hout] at h
    · by_cases hin : l.previous 0 < l.size
      · simp [hnext, hprevious, hin, hout, hsize, Function.update_of_ne (Ne.symm hprevious),
          hnode] at h
      · simp [hnext, hprevious, hin] at h
  · by_cases hprevious : l.previous 0 = 0
    · rwa [hprevious]
    by_contra hout
    by_cases hnext : l.next 0 = 0
    · simp [hnext, hprevious, hout] at h
    · simp [hnext, hprevious, hout] at h

theorem unlink_zero (hsize : 0 < l.size) (hnext : l.next 0 < l.size)
    (hprevious : l.previous 0 < l.size) : ∃ l', l.unlink 0 = some l' ∧ l.Unlinks l' 0 :=
  unlink_unlinks hsize rfl (fun hne => ⟨hnext, hne⟩) fun hne => ⟨hprevious, hne⟩

theorem Linked.listRemove_absent (h : l.Linked active reserved) (ho : o ∉ active.map l.object) :
    l.listRemove o = (l.unlink 0).bind fun l' =>
      if 0 < l'.size then some (l'.giveBack 0) else none := by
  have hfind : active.find? (fun i => l.object i = o) = none := by
    refine List.find?_eq_none.2 fun i hi => ?_
    simpa using fun heq => ho (List.mem_map.2 ⟨i, hi, heq⟩)
  refine listRemove_of_find ?_
  rw [h.listFindNodeIndex_eq, hfind, Option.getD_none]

theorem Linked.represents (h : l.Linked active reserved) :
    l.Represents (active.map l.object) reserved :=
  ⟨⟨active, h.forwards, h.backwards, rfl, fun _ hi => h.lt_size (List.mem_append_left _ hi)⟩,
    h.free⟩

/-- Slot 0 is linked out from between its neighbours. -/
structure UnlinksSlotZero (l l' : ListStruct) : Prop where
  size : l'.size = l.size
  capacity : l'.capacity = l.capacity
  reserved : l'.reserved = 0
  object : ∀ j, l'.object j = l.object j
  head : l'.head = if l.previous 0 = 0 then l.next 0 else l.head
  next : ∀ j, j ≠ 0 → l'.next j =
    if l.previous 0 ≠ 0 ∧ j = l.previous 0 then l.next 0 else l.next j
  tail : l'.tail = if l.next 0 = 0 then l.previous 0 else l.tail
  previous : ∀ j, j ≠ 0 → l'.previous j =
    if l.next 0 ≠ 0 ∧ j = l.next 0 then l.previous 0 else l.previous j

theorem Unlinks.slotZero (h : l.Unlinks l' 0) : l.UnlinksSlotZero (l'.giveBack 0) where
  size := h.size
  capacity := h.capacity
  reserved := rfl
  object := fun j => (giveBack_object l' 0 j).trans (h.object j)
  head := h.head
  next := fun j hj => (giveBack_next l' hj).trans (h.next j)
  tail := h.tail
  previous := fun j hj => (giveBack_previous l' hj).trans (h.previous j)

theorem Linked.listRemove_absent_eq (h : l.Linked active reserved)
    (ho : o ∉ active.map l.object) (hnext : l.next 0 < l.size)
    (hprevious : l.previous 0 < l.size) :
    ∃ l', l.listRemove o = some l' ∧ l.UnlinksSlotZero l' := by
  have hsize : 0 < l.size := Nat.zero_lt_of_lt hnext
  obtain ⟨l', hunlink, hunlinks⟩ := unlink_zero hsize hnext hprevious
  refine ⟨l'.giveBack 0, ?_, hunlinks.slotZero⟩
  rw [h.listRemove_absent ho, hunlink, Option.bind_some, if_pos (hunlinks.size ▸ hsize)]

/-- Slot 0 was linked so that nothing changes. -/
theorem UnlinksSlotZero.linked (h' : l.UnlinksSlotZero l') (h : l.Linked active [])
    (hnext : (if l.previous 0 = 0 then l.head else l.next (l.previous 0)) = l.next 0)
    (hprevious : (if l.next 0 = 0 then l.tail else l.previous (l.next 0)) = l.previous 0) :
    l'.Linked active [] where
  size := by rw [h'.size, h'.capacity, h.size]
  forwards := h.forwards.rerouted h'.head h'.next hnext
  backwards := h.backwards.rerouted h'.tail h'.previous hprevious
  free := chain_nil.2 h'.reserved
  nodes := h'.capacity ▸ h.nodes

/-- The list is what it was only if slot 0 was linked so. -/
theorem UnlinksSlotZero.between (h' : l.UnlinksSlotZero l') (h : l.Linked active [])
    (hn : l.next 0 < l.size) (hp : l.previous 0 < l.size)
    (hrepresents : l'.Represents (active.map l.object) []) :
    (if l.previous 0 = 0 then l.head else l.next (l.previous 0)) = l.next 0 ∧
      (if l.next 0 = 0 then l.tail else l.previous (l.next 0)) = l.previous 0 := by
  obtain ⟨active', hforwards, hbackwards, hobjects, -⟩ := hrepresents.sequence
  have hlength : active'.length = active.length := by
    have hmap := congrArg List.length hobjects
    rwa [List.length_map, List.length_map] at hmap
  have hinside : ∀ i < l.size, i = 0 ∨ i ∈ active := by
    intro i hi
    have hmem := h.mem_iff (i := i)
    rw [List.append_nil] at hmem
    have hsize := h.size
    rw [hmem]
    omega
  have hinside' : ∀ i < l.size, i = 0 ∨ i ∈ active.reverse := fun i hi =>
    (hinside i hi).imp id List.mem_reverse.2
  refine ⟨?_, ?_⟩
  · exact h.forwards.of_rerouted h'.head h'.next hforwards hlength (hinside _ hp) (hinside _ hn)
  · refine h.backwards.of_rerouted h'.tail h'.previous hbackwards ?_ (hinside' _ hn) (hinside' _ hp)
    rw [List.length_reverse, List.length_reverse, hlength]

theorem Linked.removesNothing_iff (h : l.Linked active reserved) (ho : o ∉ active.map l.object) :
    l.RemovesNothing o ↔ l.SlotZeroBetween := by
  constructor
  · rintro ⟨l', hremove, hcapacity, hsame⟩
    have hsome := hremove
    rw [h.listRemove_absent ho] at hsome
    obtain ⟨l₁, hunlink, -⟩ := Option.bind_eq_some_iff.1 hsome
    obtain ⟨hsize, hnext, hprevious⟩ := unlink_zero_inside hunlink
    obtain ⟨l'', hremove', hunlinks⟩ := h.listRemove_absent_eq ho hnext hprevious
    cases hremove.symm.trans hremove'
    have hrepresents := hsame _ _ h.represents
    have hnil : reserved = [] := hrepresents.free.start_eq_null.1 hunlinks.reserved
    subst hnil
    exact ⟨h.free.path, hsize, hnext, hprevious, hunlinks.between h hnext hprevious hrepresents⟩
  · rintro ⟨hreserved, hsize, hnext, hprevious, hneighbours⟩
    have hnil : reserved = [] := h.free.start_eq_null.1 hreserved
    subst hnil
    obtain ⟨l', hremove, hunlinks⟩ := h.listRemove_absent_eq ho hnext hprevious
    have hlinked := hunlinks.linked h hneighbours.1 hneighbours.2
    refine ⟨l', hremove, hunlinks.capacity, fun objects chain hrepresents => ?_⟩
    obtain ⟨active', hforwards, -, hobjects, -⟩ := hrepresents.sequence
    have hactive : active' = active := hforwards.unique h.forwards
    have hchain : chain = [] := hrepresents.free.unique h.free
    rw [← hobjects, hactive, hchain, ← List.map_congr_left fun i _ => hunlinks.object i]
    exact hlinked.represents

end Absent

/-! ## Without memory -/

/-- A list without nodes whose block is `NULL`. -/
structure Null (l : ListStruct) : Prop where
  head : l.head = 0
  tail : l.tail = 0
  reserved : l.reserved = 0
  size : l.size = 0
  capacity : l.capacity = 0

section Memory

variable {l : ListStruct} {active reserved : List Nat} {o : Nat}

theorem Null.full (h : l.Null) : l.Full [] where
  forwards := chain_nil.2 h.head
  backwards := chain_nil.2 h.tail
  nodes := by rw [h.capacity, List.range'_zero]
  inside := by simp

theorem Null.listRemove (h : l.Null) (o : Nat) : l.listRemove o = none := by
  have hfind : l.listFindNodeIndex o = some 0 := by
    simp [listFindNodeIndex, loop, h.head, kListNullNode]
  simp [listRemove_of_find hfind, ListStruct.unlink, node, h.size]

/-- The block of a list whose growth fails is lost. -/
theorem listAdd_failed (h : l.reserved = 0) (o : Nat) :
    l.listAdd o none = some { l with size := 0 } := by
  rw [ListStruct.listAdd, if_pos (show l.reserved = kListNullNode from h)]
  rfl

/-- The head is a node outside the block, unless the list is empty. -/
theorem listIterate_lost (hsize : l.size = 0) {objects : List Nat}
    (h : l.listIterate = some objects) : objects = [] := by
  by_cases hhead : l.head = kListNullNode
  · simpa [listIterate, loop, hhead] using h.symm
  · simp [listIterate, loop, hhead, node, hsize] at h

theorem Linked.null (h : l.Linked [] []) : ({ l with size := 0 } : ListStruct).Null where
  head := h.forwards.path
  tail := h.backwards.path
  reserved := h.free.path
  size := rfl
  capacity := h.length.symm

end Memory

/-- What the list tells about itself. -/
structure Tells (l : ListStruct) (objects : List Nat) : Prop where
  isEmpty : l.listIsEmpty = objects.isEmpty
  find : ∀ compareBlock, l.listFind compareBlock = some ((objects.find? compareBlock).getD 0)
  iterate : l.listIterate = some objects

theorem Linked.tells {l : ListStruct} {active reserved : List Nat} (h : l.Linked active reserved) :
    l.Tells (active.map l.object) :=
  ⟨h.listIsEmpty_eq, h.listFind_eq, h.listIterate_eq⟩

theorem Null.tells {l : ListStruct} (h : l.Null) : l.Tells [] where
  isEmpty := by simp [listIsEmpty, h.head, h.tail, kListNullNode]
  find := fun compareBlock => by simp [listFind, loop, h.head, kListNullNode]
  iterate := by simp [listIterate, loop, h.head, kListNullNode]

end ListStruct

/-! ## Runs -/

inductive ListCall
  /-- With the memory that `realloc` finds, if the list grows and it succeeds. -/
  | add (o : Nat) (memory : Option (Nat → ListNode))
  | remove (o : Nat)

namespace ListRun

/-- An addition without the memory that it needs does not take place. -/
def objectsAfter (r : ListRun) : ListCall → List Nat
  | .add o memory =>
    if r.list.reserved = 0 ∧ memory.isNone then r.objects else r.objects ++ [o]
  | .remove o => r.objects.erase o

def call (r : ListRun) (c : ListCall) : Option ListRun :=
  let list := match c with
    | .add o memory => r.list.listAdd o memory
    | .remove o => r.list.listRemove o
  list.map fun list => ⟨list, r.objectsAfter c⟩

/-- Additions get memory, and have a capacity of type `unsigned int`; removed objects are present. -/
def Successful (r : ListRun) : ListCall → Prop
  | .add _ memory => r.list.reserved = 0 →
    memory.isSome ∧ 1 + r.list.capacity + kListDefaultCapacity < 2 ^ 32
  | .remove o => o ∈ r.objects

/-- An addition fails on an empty list, or the object is absent and slot 0 linked so that nothing
changes. -/
def Harmless (r : ListRun) : ListCall → Prop
  | .add _ memory => memory.isNone ∧ r.objects = []
  | .remove _ => r.list.SlotZeroBetween

def Expected (r : ListRun) (c : ListCall) : Prop := r.Successful c ∨ r.Harmless c

/-- The list survives the addition of `o` when that fails: it still is the sequence, and whatever
is called afterwards finds the same as without the addition. -/
def SurvivesFailure (r : ListRun) (o : Nat) : Prop :=
  ∃ l', r.list.listAdd o none = some l' ∧
    ∀ calls, Along ListRun.call Successful r calls →
      ∃ s s', run ListRun.call r calls = some s ∧
        run ListRun.call ⟨l', r.objects⟩ calls = some s' ∧ s'.objects = s.objects ∧
        s.list.Tells s.objects ∧ s'.list.Tells s.objects ∧
        ∃ reserved, s'.list.Represents s.objects reserved

/-- The nodes are linked, or there are none. -/
def Usable (r : ListRun) : Prop :=
  (∃ active reserved, r.list.Linked active reserved ∧ active.map r.list.object = r.objects) ∨
    r.list.Null ∧ r.objects = []

section Usable

variable {r r' : ListRun} (h : r.Usable)
include h

theorem Usable.tells : r.list.Tells r.objects := by
  obtain ⟨active, reserved, hlinked, hobjects⟩ | ⟨hnull, hobjects⟩ := h
  · exact hobjects ▸ hlinked.tells
  · exact hobjects ▸ hnull.tells

theorem Usable.represents : ∃ reserved, r.list.Represents r.objects reserved := by
  obtain ⟨active, reserved, hlinked, hobjects⟩ | ⟨hnull, hobjects⟩ := h
  · exact ⟨reserved, hobjects ▸ hlinked.represents⟩
  · exact ⟨[], ⟨[], chain_nil.2 hnull.head, chain_nil.2 hnull.tail, hobjects.symm, by simp⟩,
      chain_nil.2 hnull.reserved⟩

theorem Usable.reserved_iff : r.list.reserved = 0 ↔ r.list.capacity = r.objects.length := by
  obtain ⟨active, reserved, hlinked, hobjects⟩ | ⟨hnull, hobjects⟩ := h
  · have hlength := hlinked.length
    rw [hlinked.free.start_eq_null, ← hobjects, List.length_map, ← List.length_eq_zero_iff]
    omega
  · exact iff_of_true hnull.reserved (hnull.capacity.trans (by rw [hobjects, List.length_nil]))

/-- All nodes are in use, if there are any. -/
theorem Usable.full (hreserved : r.list.reserved = 0) :
    ∃ active, r.list.Full active ∧ active.map r.list.object = r.objects := by
  obtain ⟨active, reserved, hlinked, hobjects⟩ | ⟨hnull, hobjects⟩ := h
  · have hnil : reserved = [] := hlinked.free.start_eq_null.1 hreserved
    subst hnil
    exact ⟨active, hlinked.full, hobjects⟩
  · exact ⟨[], hnull.full, hobjects.symm⟩

theorem Usable.add {o : Nat} {memory : Option (Nat → ListNode)}
    (hok : r.Successful (.add o memory)) :
    ∃ r', r.call (.add o memory) = some r' ∧ r'.Usable ∧ r'.list.capacity =
      if r.list.reserved = 0 then r.list.capacity + kListDefaultCapacity else r.list.capacity := by
  by_cases hreserved : r.list.reserved = 0
  · obtain ⟨hsome, hsmall⟩ := hok hreserved
    obtain ⟨memory, rfl⟩ := Option.isSome_iff_exists.1 hsome
    obtain ⟨active, hfull, hobjects⟩ := h.full hreserved
    obtain ⟨l', i, reserved', hadd, hlinked, hcapacity, hobjects'⟩ :=
      hfull.listAdd hreserved hsmall o memory
    refine ⟨⟨l', r.objects ++ [o]⟩, ?_, .inl ⟨_, _, hlinked, ?_⟩, ?_⟩
    · simp [ListRun.call, hadd, objectsAfter]
    · rw [hobjects', hobjects]
    · rw [if_pos hreserved, hcapacity]
  · obtain ⟨active, reserved, hlinked, hobjects⟩ | ⟨hnull, -⟩ := h
    · cases reserved with
      | nil => exact absurd hlinked.free.path hreserved
      | cons i reserved =>
        obtain ⟨l', hadd, hlinked', hcapacity, hobjects'⟩ := hlinked.listAdd o memory
        refine ⟨⟨l', r.objects ++ [o]⟩, ?_, .inl ⟨_, _, hlinked', ?_⟩, ?_⟩
        · simp [ListRun.call, hadd, objectsAfter, hreserved]
        · rw [hobjects', hobjects]
        · rw [if_neg hreserved, hcapacity]
    · exact absurd hnull.reserved hreserved

theorem Usable.remove {o : Nat} (ho : o ∈ r.objects) :
    ∃ r', r.call (.remove o) = some r' ∧ r'.Usable ∧ r'.list.capacity = r.list.capacity := by
  obtain ⟨active, reserved, hlinked, hobjects⟩ | ⟨-, hobjects⟩ := h
  · obtain ⟨l', active', i, hremove, hlinked', hobjects'⟩ :=
      hlinked.listRemove (hobjects.symm ▸ ho)
    refine ⟨⟨l', r.objects.erase o⟩, ?_, .inl ⟨_, _, hlinked', ?_⟩, ?_⟩
    · simp [ListRun.call, hremove, objectsAfter]
    · rw [hobjects', hobjects]
    · have hlength := hlinked.length
      have hlength' := hlinked'.length
      have hone : active'.length + 1 = active.length := by
        have hmap := congrArg List.length hobjects'
        rw [List.length_map, List.length_erase_of_mem (hobjects.symm ▸ ho), List.length_map] at hmap
        have hpos := List.length_pos_of_mem (hobjects.symm ▸ ho)
        rw [List.length_map] at hpos
        omega
      rw [List.length_cons] at hlength'
      show l'.capacity = r.list.capacity
      omega
  · rw [hobjects] at ho
    cases ho

/-- What the capacity is after a call that succeeds. -/
theorem Usable.successful {c : ListCall} (hok : r.Successful c) :
    ∃ r', r.call c = some r' ∧ r'.Usable ∧ r'.list.capacity = match c with
      | .add _ _ => if r.list.reserved = 0 then r.list.capacity + kListDefaultCapacity
        else r.list.capacity
      | .remove _ => r.list.capacity := by
  cases c with
  | add o memory => exact h.add hok
  | remove o => exact h.remove hok

theorem Usable.harmless {c : ListCall} (hok : r.Harmless c) : ∃ r', r.call c = some r' ∧ r'.Usable := by
  cases c with
  | add o memory =>
    obtain ⟨hnone, hobjects⟩ := hok
    by_cases hreserved : r.list.reserved = 0
    · rw [Option.isNone_iff_eq_none] at hnone
      subst hnone
      refine ⟨⟨{ r.list with size := 0 }, r.objects⟩, ?_, .inr ⟨?_, hobjects⟩⟩
      · simp [ListRun.call, ListStruct.listAdd_failed hreserved, objectsAfter, hreserved]
      · obtain ⟨active, reserved, hlinked, hactive⟩ | ⟨hnull, -⟩ := h
        · rw [hobjects, List.map_eq_nil_iff] at hactive
          have hnil : reserved = [] := hlinked.free.start_eq_null.1 hreserved
          subst hactive hnil
          exact hlinked.null
        · exact ⟨hnull.head, hnull.tail, hnull.reserved, rfl, hnull.capacity⟩
    · have hok : r.Successful (.add o memory) := fun hzero => absurd hzero hreserved
      obtain ⟨r', hcall, husable, -⟩ := h.add hok
      exact ⟨r', hcall, husable⟩
  | remove o =>
    by_cases ho : o ∈ r.objects
    · obtain ⟨r', hcall, husable, -⟩ := h.remove ho
      exact ⟨r', hcall, husable⟩
    obtain ⟨active, reserved, hlinked, hobjects⟩ | ⟨hnull, -⟩ := h
    · obtain ⟨hreserved, -, hnext, hprevious, hneighbours⟩ := hok
      have hnil : reserved = [] := hlinked.free.start_eq_null.1 hreserved
      subst hnil
      obtain ⟨l', hremove, hunlinks⟩ :=
        hlinked.listRemove_absent_eq (hobjects.symm ▸ ho) hnext hprevious
      refine ⟨⟨l', r.objects.erase o⟩, by simp [ListRun.call, hremove, objectsAfter],
        .inl ⟨_, _, hunlinks.linked hlinked hneighbours.1 hneighbours.2, ?_⟩⟩
      rw [List.erase_of_not_mem ho, ← hobjects]
      exact List.map_congr_left fun i _ => hunlinks.object i
    · exact absurd hok.2.1 (by rw [hnull.size]; exact Nat.lt_irrefl 0)

theorem Usable.removesNothing_iff {o : Nat} (ho : o ∉ r.objects) :
    r.list.RemovesNothing o ↔ r.list.SlotZeroBetween := by
  obtain ⟨active, reserved, hlinked, hobjects⟩ | ⟨hnull, -⟩ := h
  · exact hlinked.removesNothing_iff (hobjects.symm ▸ ho)
  · refine iff_of_false ?_ fun hbetween => ?_
    · rintro ⟨l', hremove, -⟩
      rw [hnull.listRemove] at hremove
      cases hremove
    · exact absurd hbetween.2.1 (by rw [hnull.size]; exact Nat.lt_irrefl 0)

/-- Two lists with the same objects and the same capacity, under the same calls. -/
theorem Usable.runs (h' : r'.Usable) (hobjects : r'.objects = r.objects)
    (hcapacity : r'.list.capacity = r.list.capacity) {calls : List ListCall}
    (hcalls : Along ListRun.call Successful r calls) :
    ∃ s s', run ListRun.call r calls = some s ∧ run ListRun.call r' calls = some s' ∧
      s.Usable ∧ s'.Usable ∧ s'.objects = s.objects := by
  induction calls generalizing r r' with
  | nil => exact ⟨r, r', rfl, rfl, h, h', hobjects⟩
  | cons c calls ih =>
    have hreserved : r'.list.reserved = 0 ↔ r.list.reserved = 0 := by
      rw [h.reserved_iff, h'.reserved_iff, hcapacity, hobjects]
    have hok' : r'.Successful c := by
      cases c with
      | add o memory =>
        intro hzero
        rw [hcapacity]
        exact hcalls.1 (hreserved.1 hzero)
      | remove o =>
        have ho : o ∈ r.objects := hcalls.1
        exact (hobjects ▸ ho : o ∈ r'.objects)
    obtain ⟨r₁, hcall, h₁, hcapacity₁⟩ := h.successful hcalls.1
    obtain ⟨r₁', hcall', h₁', hcapacity₁'⟩ := h'.successful hok'
    have hobjects₁ : r₁'.objects = r₁.objects := by
      obtain ⟨l, -, rfl⟩ := Option.map_eq_some_iff.1 hcall
      obtain ⟨l', -, rfl⟩ := Option.map_eq_some_iff.1 hcall'
      cases c <;> simp only [objectsAfter, hreserved, hobjects]
    have hcapacity₂ : r₁'.list.capacity = r₁.list.capacity := by
      rw [hcapacity₁, hcapacity₁']
      cases c <;> simp only [hreserved, hcapacity]
    obtain ⟨s, s', hs, hs', hrest⟩ := ih h₁ h₁' hobjects₁ hcapacity₂ (hcalls.2 r₁ hcall)
    exact ⟨s, s', run_cons_eq_some.2 ⟨r₁, hcall, hs⟩, run_cons_eq_some.2 ⟨r₁', hcall', hs'⟩, hrest⟩

theorem Usable.survivesFailure_iff (hreserved : r.list.reserved = 0) (o : Nat) :
    r.SurvivesFailure o ↔ r.objects = [] := by
  constructor
  · rintro ⟨l', hadd, hsurvives⟩
    rw [ListStruct.listAdd_failed hreserved] at hadd
    cases hadd
    obtain ⟨s, s', hs, hs', -, -, htells, -⟩ := hsurvives [] trivial
    cases hs
    cases hs'
    exact ListStruct.listIterate_lost rfl htells.iterate
  · intro hobjects
    refine ⟨{ r.list with size := 0 }, ListStruct.listAdd_failed hreserved o, fun calls hcalls => ?_⟩
    obtain ⟨r', hcall, husable⟩ := h.harmless (c := .add o none) ⟨rfl, hobjects⟩
    rw [ListRun.call, ListStruct.listAdd_failed hreserved, Option.map_some,
      Option.some.injEq] at hcall
    have hafter : r.objectsAfter (.add o none) = r.objects := if_pos ⟨hreserved, rfl⟩
    rw [hafter] at hcall
    subst hcall
    obtain ⟨s, s', hs, hs', hu, hu', hsame⟩ := h.runs husable rfl rfl hcalls
    exact ⟨s, s', hs, hs', hsame, hu.tells, hsame ▸ hu'.tells, hsame ▸ hu'.represents⟩

end Usable

end ListRun

/-- The list can be created, with or without memory, and every run of expected calls succeeds, in a
state with `P`. -/
def ListReaches (initialCapacity : Nat) (memory : Option (Nat → ListNode)) (P : ListRun → Prop) :
    Prop :=
  ∃ l, listCreate initialCapacity memory = some l ∧
    ∀ calls, Along ListRun.call ListRun.Expected ⟨l, []⟩ calls →
      ∃ r, run ListRun.call ⟨l, []⟩ calls = some r ∧ P r

theorem listCreate_usable {initialCapacity : Nat} (hinitial : initialCapacity < 2 ^ 31)
    (memory : Option (Nat → ListNode)) :
    ∃ l, listCreate initialCapacity memory = some l ∧ ListRun.Usable ⟨l, []⟩ := by
  cases memory with
  | none => exact ⟨_, rfl, .inr ⟨⟨rfl, rfl, rfl, rfl, rfl⟩, rfl⟩⟩
  | some memory =>
    obtain ⟨l, hcreate, hlinked⟩ := listCreate_linked hinitial memory
    exact ⟨l, hcreate, .inl ⟨[], _, hlinked, rfl⟩⟩

theorem list_reaches {initialCapacity : Nat} (hinitial : initialCapacity < 2 ^ 31)
    (memory : Option (Nat → ListNode)) : ListReaches initialCapacity memory ListRun.Usable := by
  obtain ⟨l, hcreate, husable⟩ := listCreate_usable hinitial memory
  refine ⟨l, hcreate, fun calls hcalls => run_along_safe husable (fun r c h hok => ?_) hcalls⟩
  rcases hok with hok | hok
  · obtain ⟨r', hcall, h', -⟩ := h.successful hok
    exact ⟨r', hcall, h'⟩
  · exact h.harmless hok

theorem ListReaches.imp {initialCapacity : Nat} {memory : Option (Nat → ListNode)}
    {P Q : ListRun → Prop} (h : ListReaches initialCapacity memory P) (himp : ∀ r, P r → Q r) :
    ListReaches initialCapacity memory Q := by
  obtain ⟨l, hcreate, hruns⟩ := h
  refine ⟨l, hcreate, fun calls hcalls => ?_⟩
  obtain ⟨r, hrun, hP⟩ := hruns calls hcalls
  exact ⟨r, hrun, himp r hP⟩

/-- **Removing an absent object** is a no-op, in the lists that are reached, just when slot 0 is
linked as a node in its place would be and no node is reserved. -/
theorem list_remove_absent_iff (initialCapacity : Nat) (hinitial : initialCapacity < 2 ^ 31)
    (memory : Option (Nat → ListNode)) :
    ListReaches initialCapacity memory fun r =>
      (∃ reserved, r.list.Represents r.objects reserved) ∧
        ∀ o, o ∉ r.objects → (r.list.RemovesNothing o ↔ r.list.SlotZeroBetween) :=
  (list_reaches hinitial memory).imp fun _ h =>
    ⟨h.represents, fun _ ho => h.removesNothing_iff ho⟩

/-- A list without nodes, of which slot 0 happens to be cleared. -/
theorem list_remove_absent_empty : ListReaches 0 (some fun _ => ⟨0, 0, 0⟩) fun r =>
    (∃ reserved, r.list.Represents r.objects reserved) ∧
      ∀ o, o ∉ r.objects → (r.list.RemovesNothing o ↔ r.list.SlotZeroBetween) :=
  list_remove_absent_iff 0 (by decide) _

/-- The removal of 5 empties the list of 7. -/
theorem list_remove_absent_empties :
    ∃ r, (listCreate 1 (some fun _ => ⟨0, 0, 0⟩)).bind (fun l => run ListRun.call ⟨l, []⟩
        [.add 7 none]) = some r ∧ r.objects = [7] ∧ r.list.listIterate = some [7] ∧
      (∃ l', r.list.listRemove 5 = some l' ∧ l'.listIterate = some []) ∧
      ¬ r.list.RemovesNothing 5 := by
  refine ⟨_, rfl, rfl, by decide, ⟨_, rfl, by decide⟩, ?_⟩
  rintro ⟨l', hremove, -, hsame⟩
  cases hremove
  obtain ⟨active, hforwards, -, hobjects, -⟩ := (hsame [7] []
    ⟨⟨[1], chain_cons.2 ⟨rfl, by decide, chain_nil.2 rfl⟩,
      chain_cons.2 ⟨rfl, by decide, chain_nil.2 rfl⟩, rfl, by decide⟩, chain_nil.2 rfl⟩).sequence
  rw [hforwards.start_eq_null.1 rfl] at hobjects
  cases hobjects

/-- **A failed growth** leaves the list as it was, in the lists that are reached, just when it has
no objects. -/
theorem list_add_failed_iff (initialCapacity : Nat) (hinitial : initialCapacity < 2 ^ 31)
    (memory : Option (Nat → ListNode)) :
    ListReaches initialCapacity memory fun r =>
      r.list.Tells r.objects ∧
        (r.list.reserved = 0 → ∀ o, r.SurvivesFailure o ↔ r.objects = []) :=
  (list_reaches hinitial memory).imp fun _ h => ⟨h.tells, h.survivesFailure_iff⟩

theorem list_add_failed_empty : ListReaches 0 none fun r =>
    r.list.Tells r.objects ∧
      (r.list.reserved = 0 → ∀ o, r.SurvivesFailure o ↔ r.objects = []) :=
  list_add_failed_iff 0 (by decide) none

/-- A list with one object in its one node: it cannot be iterated after the growth has failed. -/
theorem list_add_failed_loses :
    ∃ r, (listCreate 1 (some fun _ => ⟨0, 0, 0⟩)).bind (fun l => run ListRun.call ⟨l, []⟩
        [.add 7 none]) = some r ∧ r.list.reserved = 0 ∧ r.list.listIterate = some [7] ∧
      (∃ l', r.list.listAdd 8 none = some l' ∧ l'.listIterate = none) ∧
      ¬ r.SurvivesFailure 8 := by
  refine ⟨_, rfl, rfl, by decide, ⟨_, rfl, by decide⟩, ?_⟩
  rintro ⟨l', hadd, hsurvives⟩
  cases hadd
  obtain ⟨s, s', hs, hs', -, -, htells, -⟩ := hsurvives [] trivial
  cases hs
  cases hs'
  have hnil := ListStruct.listIterate_lost rfl htells.iterate
  cases hnil

end UniversalNetwork
