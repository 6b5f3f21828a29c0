import Mathlib.Tactic.Common

/-!
# Segments of a list

`HasAt data k bs`: the elements of `data` from index `k` on start with `bs`.
`overwrite data k bs`: the elements from index `k` on replaced by `bs`.

* `hasAt_append`: two adjacent segments are one.
* `hasAt_overwrite`: what was written is there.
* `overwrite_overwrite`: two adjacent writes are one; `overwrite_before`: in either order.
* `getElem?_overwrite_of_outside`: the elements before and after a write are kept.
* `AgreeOn n`: two lists of one length with the same first `n` elements.
* `refill n`: a list with its elements from index `n` on replaced.
-/

namespace Lib

variable {α : Type*} {data data' bs cs : List α} {k n : Nat}

/-! ## Reading -/

def HasAt (data : List α) (k : Nat) (bs : List α) : Prop := bs <+: data.drop k

theorem hasAt_append :
    HasAt data k (bs ++ cs) ↔ HasAt data k bs ∧ HasAt data (k + bs.length) cs := by
  unfold HasAt
  constructor
  · rintro ⟨r, hr⟩
    refine ⟨⟨cs ++ r, by rw [← hr, List.append_assoc]⟩, ⟨r, ?_⟩⟩
    rw [← List.drop_drop, ← hr, List.append_assoc, List.drop_left]
  · rintro ⟨⟨r, hr⟩, h⟩
    rw [← List.drop_drop, ← hr, List.drop_left] at h
    rw [← hr]
    exact List.prefix_append_right_inj bs |>.2 h

theorem HasAt.get? (h : HasAt data k bs) {i : Nat} (hi : i < bs.length) :
    data[k + i]? = some bs[i] := by
  obtain ⟨r, hr⟩ := h
  rw [← List.getElem?_drop, ← hr, List.getElem?_append_left hi, List.getElem?_eq_getElem hi]

theorem HasAt.head {b : α} (h : HasAt data k (b :: bs)) : data[k]? = some b :=
  h.get? (i := 0) (Nat.succ_pos _)

theorem HasAt.tail {b : α} (h : HasAt data k (b :: bs)) : HasAt data (k + 1) bs :=
  ((@hasAt_append _ data [b] bs k).1 h).2

theorem HasAt.le_length (h : HasAt data k bs) (hk : k ≤ data.length) :
    k + bs.length ≤ data.length := by
  have := h.length_le
  rw [List.length_drop] at this
  omega

theorem HasAt.end_le (h : HasAt data k bs) (hbs : 0 < bs.length) : k + bs.length ≤ data.length := by
  have := h.length_le
  rw [List.length_drop] at this
  omega

/-! ## Writing -/

def overwrite (data : List α) (k : Nat) (bs : List α) : List α :=
  data.take k ++ bs ++ data.drop (k + bs.length)

@[simp]
theorem overwrite_nil : overwrite data k [] = data := by
  simp [overwrite]

@[simp]
theorem length_overwrite (h : k + bs.length ≤ data.length) :
    (overwrite data k bs).length = data.length := by
  simp only [overwrite, List.length_append, List.length_take, List.length_drop]
  omega

theorem getElem?_overwrite (h : k + bs.length ≤ data.length) (i : Nat) :
    (overwrite data k bs)[i]? =
      if k ≤ i ∧ i < k + bs.length then bs[i - k]? else data[i]? := by
  have htake : (data.take k).length = k := by
    rw [List.length_take]
    omega
  unfold overwrite
  rcases Nat.lt_or_ge i k with hi | hi
  · rw [if_neg (by omega), List.append_assoc, List.getElem?_append_left (by omega),
      List.getElem?_take_of_lt hi]
  · rw [List.append_assoc, List.getElem?_append_right (by omega), htake]
    rcases Nat.lt_or_ge i (k + bs.length) with hi' | hi'
    · rw [if_pos ⟨hi, hi'⟩, List.getElem?_append_left (by omega)]
    · rw [if_neg (by omega), List.getElem?_append_right (by omega), List.getElem?_drop]
      congr 1
      omega

theorem getElem?_overwrite_of_outside (h : k + bs.length ≤ data.length) {i : Nat}
    (hi : i < k ∨ k + bs.length ≤ i) : (overwrite data k bs)[i]? = data[i]? := by
  rw [getElem?_overwrite h, if_neg (by omega)]

theorem overwrite_overwrite (h : k + bs.length + cs.length ≤ data.length) :
    overwrite (overwrite data k bs) (k + bs.length) cs = overwrite data k (bs ++ cs) := by
  refine List.ext_getElem? fun i => ?_
  have hlen : (overwrite data k bs).length = data.length := length_overwrite (by omega)
  rw [getElem?_overwrite (by omega), getElem?_overwrite (by omega),
    getElem?_overwrite (by rw [List.length_append]; omega), List.length_append]
  rcases Nat.lt_or_ge i k with hi | hi
  · rw [if_neg (by omega), if_neg (by omega), if_neg (by omega)]
  rcases Nat.lt_or_ge i (k + bs.length) with hi' | hi'
  · rw [if_neg (by omega), if_pos (by omega), if_pos (by omega),
      List.getElem?_append_left (by omega)]
  rcases Nat.lt_or_ge i (k + bs.length + cs.length) with hi'' | hi''
  · rw [if_pos (by omega), if_pos (by omega), List.getElem?_append_right (by omega),
      Nat.sub_add_eq]
  · rw [if_neg (by omega), if_neg (by omega), if_neg (by omega)]

/-- The first of two adjacent segments, written last. -/
theorem overwrite_before (h : k + bs.length + cs.length ≤ data.length) :
    overwrite (overwrite data (k + bs.length) cs) k bs = overwrite data k (bs ++ cs) := by
  rw [← overwrite_overwrite h]
  refine List.ext_getElem? fun i => ?_
  have hbs : (overwrite data k bs).length = data.length := length_overwrite (by omega)
  have hcs : (overwrite data (k + bs.length) cs).length = data.length := length_overwrite h
  rw [getElem?_overwrite (by omega), getElem?_overwrite (by omega), getElem?_overwrite (by omega),
    getElem?_overwrite (by omega)]
  by_cases hi : k ≤ i ∧ i < k + bs.length
  · rw [if_pos hi, if_neg (by omega), if_pos hi]
  · rw [if_neg hi, if_neg hi]

theorem hasAt_overwrite (h : k + bs.length ≤ data.length) : HasAt (overwrite data k bs) k bs := by
  unfold HasAt overwrite
  rw [List.append_assoc, List.drop_append_of_le_length (by rw [List.length_take]; omega),
    List.drop_of_length_le (l := data.take k) (by rw [List.length_take]; omega), List.nil_append]
  exact List.prefix_append _ _

theorem set_eq_overwrite (h : k < data.length) (b : α) : data.set k b = overwrite data k [b] := by
  rw [List.set_eq_take_append_cons_drop, if_pos h]
  simp [overwrite]

/-! ## Agreement on a part -/

def AgreeOn (n : Nat) (data data' : List α) : Prop :=
  data.length = data'.length ∧ ∀ i < n, data[i]? = data'[i]?

/-- The first `n` elements, and others from there on. -/
def refill (n : Nat) (data : List α) (f : Nat → α) : List α :=
  data.mapIdx fun i x => if i < n then x else f i

theorem length_refill (n : Nat) (data : List α) (f : Nat → α) :
    (refill n data f).length = data.length := List.length_mapIdx

theorem agreeOn_refill (n : Nat) (data : List α) (f : Nat → α) :
    AgreeOn n data (refill n data f) := by
  refine ⟨(length_refill n data f).symm, fun i hi => ?_⟩
  rw [refill, List.getElem?_mapIdx]
  simp [hi]

theorem getElem?_refill {i : Nat} (f : Nat → α) (hn : n ≤ i) (hi : i < data.length) :
    (refill n data f)[i]? = some (f i) := by
  rw [refill, List.getElem?_mapIdx, List.getElem?_eq_getElem hi, Option.map_some,
    if_neg (Nat.not_lt.2 hn)]

end Lib
