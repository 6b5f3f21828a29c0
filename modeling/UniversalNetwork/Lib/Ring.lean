import Mathlib.Tactic.Common
import Mathlib.Data.List.Range

/-!
# Windows of a ring buffer

A ring of `c` slots that is filled in order is indexed by absolute positions: position `j` is in
slot `j % c`. `window c front back` lists the slots from the cursor `front` up to the cursor
`back`; for two positions less than a revolution apart it lists the slots of the positions between
them (`window_mod`), so a window that starts later is a suffix (`window_suffix`).
-/

namespace Lib

variable {c : Nat}

/-- The slots from `front` (included) round to `back` (excluded). -/
def window (c front back : Nat) : List Nat :=
  (List.range ((back + c - front) % c)).map fun i => (front + i) % c

theorem cursor_distance {lo hi : Nat} (h : lo ≤ hi) (hc : hi < lo + c) :
    (hi % c + c - lo % c) % c = hi - lo := by
  obtain ⟨d, rfl⟩ : ∃ d, hi = lo + d := ⟨hi - lo, by omega⟩
  have hlo : lo % c < c := Nat.mod_lt _ (by omega)
  have hd : d < c := by omega
  rw [Nat.add_mod, Nat.mod_eq_of_lt hd]
  rcases Nat.lt_or_ge (lo % c + d) c with hlt | hge
  · rw [Nat.mod_eq_of_lt hlt, show lo % c + d + c - lo % c = d + c by omega, Nat.add_mod_right,
      Nat.mod_eq_of_lt hd]
    omega
  · rw [Nat.mod_eq_sub_mod hge, Nat.mod_eq_of_lt (by omega : lo % c + d - c < c),
      show lo % c + d - c + c - lo % c = d by omega, Nat.mod_eq_of_lt hd]
    omega

/-- A window between two positions less than a revolution apart. -/
theorem window_mod {lo hi : Nat} (h : lo ≤ hi) (hc : hi < lo + c) :
    window c (lo % c) (hi % c) = (List.range' lo (hi - lo)).map (· % c) := by
  unfold window
  rw [cursor_distance h hc, List.range'_eq_map_range, List.map_map]
  refine List.map_congr_left fun i _ => ?_
  simp [Nat.add_mod]

theorem window_length {lo hi : Nat} (h : lo ≤ hi) (hc : hi < lo + c) :
    (window c (lo % c) (hi % c)).length = hi - lo := by
  rw [window_mod h hc]
  simp

/-- A window that starts later is a suffix. -/
theorem window_suffix {lo lo' hi : Nat} (h : lo ≤ lo') (h' : lo' ≤ hi) (hc : hi < lo + c) :
    window c (lo' % c) (hi % c) <:+ window c (lo % c) (hi % c) := by
  rw [window_mod h' (by omega), window_mod (by omega) hc]
  apply List.IsSuffix.map
  refine ⟨List.range' lo (lo' - lo), ?_⟩
  rw [show hi - lo = (lo' - lo) + (hi - lo') by omega, ← List.range'_append]
  congr 2
  omega

/-- Cursors of positions less than a revolution apart meet only when the positions do. -/
theorem cursor_eq_iff {lo hi : Nat} (h : lo ≤ hi) (hc : hi < lo + c) :
    lo % c = hi % c ↔ lo = hi := by
  refine ⟨fun he => ?_, fun he => he ▸ rfl⟩
  have hd := cursor_distance h hc
  rw [he, show hi % c + c - hi % c = c by omega, Nat.mod_self] at hd
  omega

end Lib
