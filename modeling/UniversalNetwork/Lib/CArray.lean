import Mathlib.Tactic.Common

/-!
# Fixed-size arrays with checked accesses

A C array of `n` elements is a `Vector α n`. A read `v[i]?` and a write `store v i x` outside the
array are faults (`none`), so a program whose run does not fault stays inside its arrays.
`storeAll` is `memcpy` to an index; `patch v bs` is the array after `bs` was copied to its start.
-/

namespace Lib

variable {α : Type*} {n : Nat}

/-- `v[i] = x`; a fault when `i` is not an index of the array. -/
def store (v : Vector α n) (i : Nat) (x : α) : Option (Vector α n) :=
  if h : i < n then some (v.set i x h) else none

theorem store_eq_some {v v' : Vector α n} {i : Nat} {x : α} :
    store v i x = some v' ↔ ∃ h : i < n, v.set i x h = v' := by
  unfold store
  split
  · rename_i h
    simp [h]
  · rename_i h
    simp [h]

theorem store_of_lt (v : Vector α n) {i : Nat} (h : i < n) (x : α) :
    store v i x = some (v.set i x h) := by
  simp [store, h]

theorem store_get_self {v v' : Vector α n} {i : Nat} {x : α} (h : store v i x = some v') :
    v'[i]? = some x := by
  obtain ⟨hi, rfl⟩ := store_eq_some.1 h
  simp [hi]

theorem store_get_ne {v v' : Vector α n} {i j : Nat} {x : α} (h : store v i x = some v')
    (hij : j ≠ i) : v'[j]? = v[j]? := by
  obtain ⟨hi, rfl⟩ := store_eq_some.1 h
  rw [Vector.getElem?_set_ne hi hij.symm]

/-- `memcpy(v + i, bs, length of bs)`, byte by byte. -/
def storeAll (v : Vector α n) (i : Nat) : List α → Option (Vector α n)
  | [] => some v
  | x :: xs => (store v i x).bind fun v => storeAll v (i + 1) xs

/-! ## Copies to the start -/

def patch (v : Vector α n) (bs : List α) : Vector α n :=
  Vector.ofFn fun i => bs[i.val]?.getD v[i]

theorem patch_nil (v : Vector α n) : patch v [] = v := by
  ext i hi
  simp [patch]

theorem getElem_patch (v : Vector α n) (bs : List α) {i : Nat} (hi : i < n) :
    (patch v bs)[i] = bs[i]?.getD v[i] := by
  simp [patch]

theorem patch_toList (dest v : Vector α n) : patch dest v.toList = v := by
  refine Vector.ext fun i hi => ?_
  rw [getElem_patch _ _ hi]
  simp [hi]

/-- Storing the next element extends the copied part. -/
theorem store_patch (v : Vector α n) (bs : List α) (x : α) (h : bs.length < n) :
    store (patch v bs) bs.length x = some (patch v (bs ++ [x])) := by
  rw [store_of_lt _ h]
  congr 1
  ext i hi
  rw [Vector.getElem_set, getElem_patch _ _ hi, getElem_patch _ _ hi]
  split
  · rename_i heq
    subst heq
    simp
  · rename_i hne
    rcases Nat.lt_or_ge i bs.length with hlt | hge
    · rw [List.getElem?_append_left hlt]
    · rw [List.getElem?_eq_none hge, List.getElem?_eq_none (by simp; omega)]

/-- A copy to the end of the copied part extends it. -/
theorem storeAll_patch (v : Vector α n) (bs cs : List α) (h : bs.length + cs.length ≤ n) :
    storeAll (patch v bs) bs.length cs = some (patch v (bs ++ cs)) := by
  induction cs generalizing bs with
  | nil => simp [storeAll]
  | cons x xs ih =>
    rw [List.length_cons] at h
    have hnext := ih (bs ++ [x]) (by rw [List.length_append, List.length_singleton]; omega)
    rw [List.length_append, List.length_singleton, List.append_assoc, List.singleton_append] at hnext
    rw [storeAll, store_patch v bs x (by omega), Option.bind_some, hnext]

theorem toList_patch (v : Vector α n) (bs : List α) (h : bs.length ≤ n) :
    (patch v bs).toList = bs ++ v.toList.drop bs.length := by
  refine List.ext_getElem (by simp; omega) fun i h₁ h₂ => ?_
  have hi : i < n := by simpa using h₁
  rw [Vector.getElem_toList, getElem_patch _ _ hi]
  rcases Nat.lt_or_ge i bs.length with hlt | hge
  · rw [List.getElem_append_left hlt, List.getElem?_eq_getElem hlt, Option.getD_some]
  · rw [List.getElem_append_right hge, List.getElem?_eq_none hge, Option.getD_none,
      List.getElem_drop, Vector.getElem_toList]
    congr 1
    omega

end Lib
