import Mathlib.Algebra.Ring.Nat
import Mathlib.Data.List.Basic
import UniversalNetwork.Hashtable

/-!
# Iteration over the hash table

`hashtableIterateLoop` is the loop as it is written, with a key that wraps; one that makes more
turns than there are keys does not end. `hashtable_iterates_once` says which calls it makes of a
block that may change the entries as it likes.
-/

namespace UniversalNetwork

variable {α σ : Type}

section Loop

variable (table : σ → Hashtable α) (block : Nat → α → σ → Option σ)

/-- The body of the loop. -/
def iterateTurn (key : Nat) (s : σ) : Option σ :=
  match (table s).objects key with
  | some object => block key object s
  | none => some s

def hashtableLoop : (turns key : Nat) → σ → Option σ
  | 0, _, _ => none
  | turns + 1, key, s =>
    if key ≤ (table s).maxKey then do
      let s ← iterateTurn table block key s
      hashtableLoop turns ((key + 1) % 2 ^ 32) s
    else some s

def hashtableIterateLoop (s : σ) : Option σ :=
  hashtableLoop table block ((table s).maxKey + 2) 0 s

/-- With a record of the calls. -/
def recorded (key : Nat) (object : α) (s : σ × List (Nat × α)) : Option (σ × List (Nat × α)) :=
  (block key object s.1).map fun s' => (s', s.2 ++ [(key, object)])

/-- The calls of the block for the entries found on the way through `states`, the states in which
the loop reaches the keys. -/
structure IteratesInOrder (s : σ) (calls : List (Nat × α)) (s' : σ) (states : Nat → σ) : Prop where
  first : states 0 = s
  last : states ((table s).maxKey + 1) = s'
  turn : ∀ key ≤ (table s).maxKey, iterateTurn table block key (states key) = some (states (key + 1))
  ascending : (calls.map Prod.fst).Pairwise (· < ·)
  calls : calls = (List.range ((table s).maxKey + 1)).filterMap fun key =>
    ((table (states key)).objects key).map fun object => (key, object)

/-- The loop ends if the block does, and calls it in the order of the keys, once for each key that
has an entry when it is reached. If the block changes no entry but the one it is called for, these
are the entries at the start. -/
structure IteratesOnce (s : σ) : Prop where
  ends : (∀ key object s, (block key object s).isSome) →
    (hashtableIterateLoop (fun s => table s.1) (recorded block) (s, [])).isSome
  order : ∀ s' calls,
    hashtableIterateLoop (fun s => table s.1) (recorded block) (s, []) = some (s', calls) →
      ∃ states, IteratesInOrder table block s calls s' states
  entries : ∀ s' calls,
    hashtableIterateLoop (fun s => table s.1) (recorded block) (s, []) = some (s', calls) →
      (∀ key object s s', block key object s = some s' → ∀ key', key' ≠ key →
        (table s').objects key' = (table s).objects key') →
      calls = (List.range ((table s).maxKey + 1)).filterMap fun key =>
        ((table s).objects key).map fun object => (key, object)

end Loop

/-! ## The loop ends -/

section Ends

variable {table : σ → Hashtable α} {block : Nat → α → σ → Option σ}

theorem hashtableIterateUpTo_succ (key : Nat) (s : σ) :
    hashtableIterateUpTo table block (key + 1) s =
      (hashtableIterateUpTo table block key s).bind (iterateTurn table block key) := rfl

theorem hashtableIterateUpTo_none {k n : Nat} {s : σ} (hk : k ≤ n)
    (h : hashtableIterateUpTo table block k s = none) :
    hashtableIterateUpTo table block n s = none := by
  induction hk with
  | refl => exact h
  | step _ ih => rw [hashtableIterateUpTo_succ, ih, Option.bind_none]

/-- The same loop over what a state is seen as. -/
theorem hashtableIterateUpTo_map {τ : Type} {table' : τ → Hashtable α}
    {block' : Nat → α → τ → Option τ} {view : σ → τ} (htable : ∀ s, table' (view s) = table s)
    (hblock : ∀ key object s, (block key object s).map view = block' key object (view s)) (n : Nat)
    (s : σ) : (hashtableIterateUpTo table block n s).map view =
      hashtableIterateUpTo table' block' n (view s) := by
  induction n with
  | zero => rfl
  | succ n ih =>
    rw [hashtableIterateUpTo_succ, hashtableIterateUpTo_succ, ← ih]
    cases hashtableIterateUpTo table block n s with
    | none => rfl
    | some s' =>
      simp only [Option.bind_some, Option.map_some, iterateTurn, htable]
      cases (table s').objects n with
      | none => rfl
      | some object => exact hblock n object s'

/-- A block changes the table by the functions of `hashtable.h`, none of which changes the largest
key. -/
def KeepsMaxKey (table : σ → Hashtable α) (block : Nat → α → σ → Option σ) : Prop :=
  ∀ key object s s', block key object s = some s' → (table s').maxKey = (table s).maxKey

theorem KeepsMaxKey.turn (h : KeepsMaxKey table block) {key : Nat} {s s' : σ}
    (hturn : iterateTurn table block key s = some s') :
    (table s').maxKey = (table s).maxKey := by
  unfold iterateTurn at hturn
  split at hturn
  · exact h key _ s s' hturn
  · cases hturn
    rfl

theorem KeepsMaxKey.recorded (h : KeepsMaxKey table block) :
    KeepsMaxKey (fun s : σ × List (Nat × α) => table s.1) (recorded block) := by
  intro key object s s' hs'
  obtain ⟨s₁, hs₁, rfl⟩ := Option.map_eq_some_iff.1 hs'
  exact h key object s.1 s₁ hs₁

/-- The loop from a key on, after the turns for the keys before it. -/
theorem hashtableLoop_eq (hkeeps : KeepsMaxKey table block) {s₀ : σ} {maxKey : Nat}
    (hmax : maxKey < 2 ^ 32 - 1) (n : Nat) : ∀ {key : Nat} {s : σ},
    hashtableIterateUpTo table block key s₀ = some s → (table s).maxKey = maxKey →
      key + n = maxKey + 1 →
      hashtableLoop table block (n + 1) key s = hashtableIterateUpTo table block (maxKey + 1) s₀ := by
  induction n with
  | zero =>
    rintro key s hs hs_max rfl
    rw [hashtableLoop, if_neg (by omega), hs]
  | succ n ih =>
    intro key s hs hs_max hkey
    have hwrap : (key + 1) % 2 ^ 32 = key + 1 := Nat.mod_eq_of_lt (by omega)
    have hnext : hashtableIterateUpTo table block (key + 1) s₀ = iterateTurn table block key s := by
      rw [hashtableIterateUpTo_succ, hs, Option.bind_some]
    rw [hashtableLoop, if_pos (by omega), hwrap, Option.bind_eq_bind]
    cases hturn : iterateTurn table block key s with
    | none =>
      rw [Option.bind_none, hashtableIterateUpTo_none (k := key + 1) (by omega) (hnext.trans hturn)]
    | some s' =>
      rw [Option.bind_some]
      exact ih (hnext.trans hturn) ((hkeeps.turn hturn).trans hs_max) (by omega)

theorem hashtableIterateLoop_eq (hkeeps : KeepsMaxKey table block) {s : σ}
    (hmax : (table s).maxKey < 2 ^ 32 - 1) :
    hashtableIterateLoop table block s = hashtableIterate table block s :=
  hashtableLoop_eq hkeeps hmax ((table s).maxKey + 1) rfl rfl (Nat.zero_add _)

end Ends

/-! ## The calls -/

section Calls

variable {table : σ → Hashtable α} {block : Nat → α → σ → Option σ}

/-- The states in which the loop reaches the keys. -/
theorem hashtableIterateUpTo_recorded {s s' : σ} {calls : List (Nat × α)} {n : Nat}
    (h : hashtableIterateUpTo (fun s : σ × List (Nat × α) => table s.1) (recorded block) n (s, []) =
      some (s', calls)) :
    ∃ states : Nat → σ, states 0 = s ∧ states n = s' ∧
      (∀ key < n, iterateTurn table block key (states key) = some (states (key + 1))) ∧
      calls = (List.range n).filterMap fun key =>
        ((table (states key)).objects key).map fun object => (key, object) := by
  induction n generalizing s' calls with
  | zero =>
    cases h
    exact ⟨fun _ => s, rfl, rfl, fun _ hkey => absurd hkey (Nat.not_lt_zero _), rfl⟩
  | succ n ih =>
    rw [hashtableIterateUpTo_succ] at h
    obtain ⟨⟨s₁, calls₁⟩, h₁, hturn⟩ := Option.bind_eq_some_iff.1 h
    obtain ⟨states, hfirst, hlast, hturns, rfl⟩ := ih h₁
    have hsame : ∀ key ≤ n, Function.update states (n + 1) s' key = states key := fun key hkey =>
      Function.update_of_ne (by omega) _ _
    have hcalls : ∀ key ∈ List.range n,
        ((table (Function.update states (n + 1) s' key)).objects key).map
          (fun object => (key, object)) =
        ((table (states key)).objects key).map fun object => (key, object) := by
      intro key hkey
      rw [hsame key (Nat.le_of_lt (List.mem_range.1 hkey))]
    refine ⟨Function.update states (n + 1) s', ?_, Function.update_self _ _ _, ?_, ?_⟩
    · rw [hsame 0 (Nat.zero_le n), hfirst]
    · intro key hkey
      rcases Nat.lt_or_eq_of_le (Nat.le_of_lt_succ hkey) with hkey | rfl
      · rw [hsame key (by omega), hsame (key + 1) (by omega)]
        exact hturns key hkey
      · rw [hsame key (Nat.le_refl key), Function.update_self, hlast]
        unfold iterateTurn at hturn ⊢
        dsimp only at hturn
        split at hturn
        · obtain ⟨s₂, hs₂, heq⟩ := Option.map_eq_some_iff.1 hturn
          rw [hs₂, (Prod.mk.inj heq).1]
        · rw [(Prod.mk.inj (Option.some.inj hturn)).1]
    · rw [List.range_succ, List.filterMap_append, List.filterMap_congr hcalls]
      unfold iterateTurn at hturn
      dsimp only at hturn
      split at hturn
      · rename_i object hobject
        obtain ⟨s₂, hs₂, heq⟩ := Option.map_eq_some_iff.1 hturn
        rw [← (Prod.mk.inj heq).2]
        simp [hlast, hobject]
      · rename_i hobject
        rw [← (Prod.mk.inj (Option.some.inj hturn)).2]
        simp [hlast, hobject]

/-- Each key is called at most once. -/
theorem filterMap_range_ascending (entry : Nat → Option α) (n : Nat) :
    (((List.range n).filterMap fun key => (entry key).map fun object => (key, object)).map
      Prod.fst).Pairwise (· < ·) := by
  rw [List.map_filterMap]
  refine List.Pairwise.filterMap _ (fun key key' hlt i hi j hj => ?_) List.pairwise_lt_range
  simp only [Option.map_map, Option.map_eq_some_iff] at hi hj
  obtain ⟨_, _, rfl⟩ := hi
  obtain ⟨_, _, rfl⟩ := hj
  exact hlt

/-- An entry is as it was until the loop reaches it. -/
theorem turns_entry {states : Nat → σ} {n : Nat}
    (hturn : ∀ key < n, iterateTurn table block key (states key) = some (states (key + 1)))
    (hblock : ∀ key object s s', block key object s = some s' → ∀ key', key' ≠ key →
      (table s').objects key' = (table s).objects key') {k : Nat} (hk : k ≤ n) :
    ∀ key, k ≤ key → (table (states k)).objects key = (table (states 0)).objects key := by
  induction k with
  | zero => exact fun _ _ => rfl
  | succ k ih =>
    intro key hkey
    have hkept : (table (states (k + 1))).objects key = (table (states k)).objects key := by
      have hs := hturn k (by omega)
      unfold iterateTurn at hs
      split at hs
      · exact hblock k _ _ _ hs key (by omega)
      · rw [Option.some.inj hs]
    rw [hkept, ih (by omega) key (by omega)]

theorem hashtableIterateUpTo_ends (hblock : ∀ key object s, (block key object s).isSome) (n : Nat)
    (s : σ) : (hashtableIterateUpTo table block n s).isSome := by
  induction n with
  | zero => rfl
  | succ n ih =>
    obtain ⟨s', hs'⟩ := Option.isSome_iff_exists.1 ih
    rw [hashtableIterateUpTo_succ, hs', Option.bind_some]
    unfold iterateTurn
    split
    · exact hblock n _ s'
    · rfl

/-- The loop of `hashtable_iterate` for a block that leaves the largest key alone. -/
theorem hashtable_iterates_once (hkeeps : KeepsMaxKey table block) {s : σ}
    (hmax : (table s).maxKey < 2 ^ 32 - 1) : IteratesOnce table block s := by
  have heq := hashtableIterateLoop_eq (s := (s, [])) hkeeps.recorded hmax
  refine ⟨fun hblock => ?_, fun s' calls h => ?_, fun s' calls h hlocal => ?_⟩
  · rw [heq]
    refine hashtableIterateUpTo_ends (fun key object s => ?_) _ _
    rw [recorded, Option.isSome_map]
    exact hblock key object s.1
  · rw [heq] at h
    obtain ⟨states, hfirst, hlast, hturn, rfl⟩ := hashtableIterateUpTo_recorded h
    exact ⟨states, hfirst, hlast, fun key hkey => hturn key (Nat.lt_succ_of_le hkey),
      filterMap_range_ascending (fun key => (table (states key)).objects key) _, rfl⟩
  · rw [heq] at h
    obtain ⟨states, hfirst, hlast, hturn, rfl⟩ := hashtableIterateUpTo_recorded h
    refine List.filterMap_congr fun key hkey => ?_
    rw [turns_entry hturn hlocal (Nat.le_of_lt (List.mem_range.1 hkey)) key (Nat.le_refl key), hfirst]

end Calls

end UniversalNetwork
