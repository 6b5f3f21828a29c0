import Mathlib.Logic.Function.Basic
import Mathlib.Tactic.Common

/-!
# The hash table (`hashtable.h`, `hashtable.c`)

A direct-address table: `objects[key]` for the keys up to `max_key`, null where there is none.
-/

namespace UniversalNetwork

structure Hashtable (α : Type) where
  maxKey : Nat
  objects : Nat → Option α

variable {α σ : Type}

def hashtableCreate (maxKey : Nat) : Hashtable α where
  maxKey
  objects := fun _ => none

def hashtableSearch (ht : Hashtable α) (key : Nat) : Option α :=
  if key ≤ ht.maxKey then ht.objects key else none

def hashtableInsert (ht : Hashtable α) (key : Nat) (object : α) : Hashtable α :=
  if key ≤ ht.maxKey then { ht with objects := Function.update ht.objects key (some object) }
  else ht

def hashtableDelete (ht : Hashtable α) (key : Nat) : Hashtable α :=
  if key ≤ ht.maxKey then { ht with objects := Function.update ht.objects key none } else ht

/-- The loop of `hashtable_iterate` over the first `n` keys. The block may change the table, which
is part of a state `σ`; each key is looked up when the loop reaches it. -/
def hashtableIterateUpTo (table : σ → Hashtable α) (block : Nat → α → σ → Option σ) :
    Nat → σ → Option σ
  | 0, s => some s
  | key + 1, s => do
    let s ← hashtableIterateUpTo table block key s
    match (table s).objects key with
    | some object => block key object s
    | none => some s

def hashtableIterate (table : σ → Hashtable α) (block : Nat → α → σ → Option σ) (s : σ) :
    Option σ :=
  hashtableIterateUpTo table block ((table s).maxKey + 1) s

/-! ## Lookup after an update -/

variable {ht : Hashtable α} {key key' : Nat} {object : α}

@[simp]
theorem hashtableSearch_create (maxKey key : Nat) :
    hashtableSearch (hashtableCreate maxKey : Hashtable α) key = none := by
  unfold hashtableSearch hashtableCreate
  split <;> rfl

@[simp]
theorem maxKey_insert : (hashtableInsert ht key object).maxKey = ht.maxKey := by
  unfold hashtableInsert
  split <;> rfl

@[simp]
theorem maxKey_delete : (hashtableDelete ht key).maxKey = ht.maxKey := by
  unfold hashtableDelete
  split <;> rfl

theorem hashtableSearch_insert :
    hashtableSearch (hashtableInsert ht key object) key' =
      if key' = key ∧ key ≤ ht.maxKey then some object else hashtableSearch ht key' := by
  rw [hashtableSearch, maxKey_insert]
  unfold hashtableInsert
  rcases Decidable.em (key ≤ ht.maxKey) with h | h
  · rcases Decidable.em (key' = key) with rfl | hne
    · simp [h]
    · simp [h, hne, hashtableSearch]
  · simp [h, hashtableSearch]

theorem hashtableSearch_delete :
    hashtableSearch (hashtableDelete ht key) key' =
      if key' = key then none else hashtableSearch ht key' := by
  rw [hashtableSearch, maxKey_delete]
  unfold hashtableDelete
  rcases Decidable.em (key ≤ ht.maxKey) with h | h
  · rcases Decidable.em (key' = key) with rfl | hne
    · simp [h]
    · simp [h, hne, hashtableSearch]
  · rcases Decidable.em (key' = key) with rfl | hne
    · simp [h]
    · simp [h, hne, hashtableSearch]

/-- What each call of the block keeps, the loop keeps. -/
theorem hashtableIterateUpTo_inv {table : σ → Hashtable α} {block : Nat → α → σ → Option σ}
    {P : σ → Prop} {n : Nat} (hblock : ∀ key object s s', key < n → P s →
      (table s).objects key = some object → block key object s = some s' → P s') :
    ∀ {s s' : σ}, P s → hashtableIterateUpTo table block n s = some s' → P s' := by
  induction n with
  | zero =>
    intro s s' h0 h
    cases h
    exact h0
  | succ n ih =>
    intro s s' h0 h
    simp only [hashtableIterateUpTo] at h
    obtain ⟨s₁, h₁, h₂⟩ := Option.bind_eq_some_iff.1 h
    have hP := ih (fun key object s s' hkey => hblock key object s s' (by omega)) h0 h₁
    cases hkey : (table s₁).objects n with
    | some object =>
      rw [hkey] at h₂
      exact hblock n object s₁ s' (by omega) hP hkey h₂
    | none =>
      rw [hkey] at h₂
      cases h₂
      exact hP

end UniversalNetwork
