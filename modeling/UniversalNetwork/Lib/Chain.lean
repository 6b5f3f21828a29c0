import Mathlib.Logic.Function.Basic
import Mathlib.Tactic.Common

/-!
# Chains of links

`Path next a l b`: following `next` from `a` visits the nodes of `l` in order and arrives at `b`.
A `Chain` is a path to `null` that does not visit it.

* `path_append`: paths compose, and split at every node.
* `Path.congr`, `Chain.congr`: only the links of the nodes visited matter.
* `Chain.unique`, `Chain.nodup`: the nodes of a chain are determined by its start, and none is
  visited twice.
* `Chain.extend`, `Chain.bypass`: a node is linked in at the end, or out of the chain.
* `Chain.start_unique`, `Chain.link_unique`, `Chain.of_rerouted`: another start, or another link of
  one node, changes how long the chain is.
-/

namespace Lib

variable {ι : Type*} {null a b c i : ι} {next next' : ι → ι} {l l' : List ι}

/-! ## Paths -/

def Path (next : ι → ι) : ι → List ι → ι → Prop
  | a, [], b => a = b
  | a, i :: l, b => a = i ∧ Path next (next i) l b

theorem Path.congr (h : Path next a l b) (heq : ∀ i ∈ l, next' i = next i) :
    Path next' a l b := by
  induction l generalizing a with
  | nil => exact h
  | cons i l ih =>
    obtain ⟨rfl, h⟩ := h
    obtain ⟨hi, hl⟩ := List.forall_mem_cons.1 heq
    exact ⟨rfl, hi.symm ▸ ih h hl⟩

theorem path_append :
    Path next a (l ++ l') c ↔ ∃ b, Path next a l b ∧ Path next b l' c := by
  induction l generalizing a with
  | nil => simp [Path]
  | cons i l ih => simp [Path, ih, and_assoc]

theorem path_concat : Path next a (l ++ [i]) b ↔ Path next a l i ∧ next i = b := by
  simp [path_append, Path]

/-- Nodes numbered in the order of their links. -/
theorem path_range (f : Nat → ι) (n : Nat) (h : ∀ k < n, next (f k) = f (k + 1)) :
    Path next (f 0) ((List.range n).map f) (f n) := by
  induction n with
  | zero => rfl
  | succ n ih =>
    rw [List.range_succ, List.map_append, List.map_singleton, path_concat]
    exact ⟨ih fun k hk => h k (by omega), h n (by omega)⟩

/-! ## Chains -/

structure Chain (null : ι) (next : ι → ι) (start : ι) (l : List ι) : Prop where
  path : Path next start l null
  ne_null : null ∉ l

theorem chain_nil : Chain null next a [] ↔ a = null :=
  ⟨fun h => h.path, fun h => ⟨h, List.not_mem_nil⟩⟩

theorem chain_cons :
    Chain null next a (i :: l) ↔ a = i ∧ i ≠ null ∧ Chain null next (next i) l := by
  constructor
  · rintro ⟨⟨rfl, hpath⟩, hnull⟩
    rw [List.mem_cons, not_or] at hnull
    exact ⟨rfl, Ne.symm hnull.1, hpath, hnull.2⟩
  · rintro ⟨rfl, hi, hpath, hnull⟩
    exact ⟨⟨rfl, hpath⟩, by simp [hi.symm, hnull]⟩

theorem Chain.congr (h : Chain null next a l) (heq : ∀ i ∈ l, next' i = next i) :
    Chain null next' a l :=
  ⟨h.path.congr heq, h.ne_null⟩

theorem Chain.start_eq_null (h : Chain null next a l) : a = null ↔ l = [] := by
  cases l with
  | nil => exact iff_of_true h.path rfl
  | cons i l =>
    obtain ⟨rfl, hi, -⟩ := chain_cons.1 h
    exact iff_of_false hi (List.cons_ne_nil _ _)

theorem Chain.unique (h : Chain null next a l) (h' : Chain null next a l') : l = l' := by
  induction l generalizing a l' with
  | nil => exact (h'.start_eq_null.1 h.path).symm
  | cons i l ih =>
    obtain ⟨rfl, hi, h⟩ := chain_cons.1 h
    cases l' with
    | nil => exact absurd h'.path hi
    | cons j l' =>
      obtain ⟨rfl, -, h'⟩ := chain_cons.1 h'
      rw [ih h h']

/-- What a chain visits after some of its nodes is a chain. -/
theorem Chain.of_append (h : Chain null next a (l ++ l')) :
    ∃ b, Path next a l b ∧ Chain null next b l' := by
  obtain ⟨b, hl, hl'⟩ := path_append.1 h.path
  exact ⟨b, hl, hl', fun hmem => h.ne_null (List.mem_append_right _ hmem)⟩

theorem Chain.nodup (h : Chain null next a l) : l.Nodup := by
  induction l generalizing a with
  | nil => exact List.nodup_nil
  | cons i l ih =>
    obtain ⟨rfl, -, h⟩ := chain_cons.1 h
    refine List.nodup_cons.2 ⟨fun hmem => ?_, ih h⟩
    -- a second visit would be followed by the whole chain again
    obtain ⟨l₁, l₂, rfl⟩ := List.append_of_mem hmem
    obtain ⟨b, -, h₂⟩ := h.of_append
    obtain ⟨rfl, -, h₂⟩ := chain_cons.1 h₂
    have hlength := congrArg List.length (h.unique h₂)
    simp only [List.length_append, List.length_cons] at hlength
    omega

/-! ## Relinking -/

theorem Chain.extend {start : ι} (h : Chain null next start (l ++ [a])) (ha : next' a = i)
    (hi : next' i = null) (hne : i ≠ null) (heq : ∀ j ∈ l, next' j = next j) :
    Chain null next' start (l ++ [a] ++ [i]) := by
  obtain ⟨hpath, -⟩ := path_concat.1 h.path
  refine ⟨path_concat.2 ⟨path_concat.2 ⟨hpath.congr heq, ha⟩, hi⟩, ?_⟩
  rw [List.mem_append, not_or]
  exact ⟨h.ne_null, by simpa using hne.symm⟩

/-- The node before `i`, or the start if there is none, is linked to the node after it. -/
theorem Chain.bypass {start start' : ι} (h : Chain null next start (l ++ i :: l'))
    (hstart : start' = if l = [] then next i else start)
    (hnext : ∀ j ∈ l ++ l', l.getLast? = some j → next' j = next i)
    (hother : ∀ j ∈ l ++ l', l.getLast? ≠ some j → next' j = next j) :
    Chain null next' start' (l ++ l') := by
  have hnodup := h.nodup
  refine ⟨?_, fun hmem => h.ne_null (by simp only [List.mem_append, List.mem_cons] at hmem ⊢; tauto)⟩
  obtain ⟨b, hpath, rfl, hpath'⟩ := path_append.1 h.path
  rcases List.eq_nil_or_concat l with rfl | ⟨l, a, rfl⟩
  · rw [hstart, if_pos rfl]
    exact hpath'.congr fun j hj => hother j (List.mem_append_right _ hj) (by simp)
  · rw [List.concat_eq_append] at *
    simp only [List.nodup_append, List.mem_append, List.mem_cons, List.getLast?_append,
      List.getLast?_singleton, Option.some_or, Option.some.injEq, ne_eq] at hnodup hnext hother
    obtain ⟨hpath, -⟩ := path_concat.1 hpath
    rw [hstart, if_neg (by simp), path_append]
    refine ⟨next b, path_concat.2 ⟨hpath.congr fun j hj => ?_, ?_⟩, hpath'.congr fun j hj => ?_⟩
    · exact hother j (.inl (.inl hj)) fun heq => hnodup.1.2.2 j hj a (.inl rfl) heq.symm
    · exact hnext a (.inl (.inr (.inl rfl))) rfl
    · exact hother j (.inr hj) fun heq => hnodup.2.2 a (.inr (.inl rfl)) j (.inr hj) heq

theorem Chain.start_eq (h : Chain null next a l) : a = l.head?.getD null := by
  cases l with
  | nil => exact h.path
  | cons i l => exact h.path.1

/-! ## Chains of one length -/

/-- A chain starts with every path from its start. -/
theorem Chain.of_path (h : Chain null next a l) (hpath : Path next a l' b) (hnull : null ∉ l') :
    ∃ r, l = l' ++ r ∧ Chain null next b r := by
  induction l' generalizing a l with
  | nil => exact ⟨l, rfl, hpath ▸ h⟩
  | cons i l' ih =>
    obtain ⟨rfl, hpath⟩ := hpath
    rw [List.mem_cons, not_or] at hnull
    cases l with
    | nil => exact absurd h.path.symm hnull.1
    | cons j l =>
      obtain ⟨rfl, -, h⟩ := chain_cons.1 h
      obtain ⟨r, rfl, hr⟩ := ih h hpath hnull.2
      exact ⟨r, rfl, hr⟩

/-- A chain of the same length that starts at a node of this one starts with the same node. -/
theorem Chain.start_unique (h : Chain null next a l) (h' : Chain null next b l')
    (hlength : l'.length = l.length) (hb : b = null ∨ b ∈ l) : a = b := by
  rcases hb with rfl | hb
  · rw [h'.start_eq_null.1 rfl] at hlength
    exact h.start_eq_null.2 (List.eq_nil_of_length_eq_zero hlength.symm)
  · obtain ⟨l₁, l₂, rfl⟩ := List.append_of_mem hb
    obtain ⟨c, hpath, hchain⟩ := h.of_append
    obtain ⟨rfl, -, -⟩ := chain_cons.1 hchain
    rw [h'.unique hchain, List.length_append] at hlength
    have hnil : l₁ = [] := List.eq_nil_of_length_eq_zero (by omega)
    rw [hnil] at hpath
    exact hpath

/-- When another link of one node leaves the chain as long as it was, it is the same link. -/
theorem Chain.link_unique {start : ι} (h : Chain null next start l)
    (h' : Chain null next' start l') (hlength : l'.length = l.length) (hi : i ∈ l)
    (hother : ∀ j ∈ l, j ≠ i → next' j = next j) (hb : next' i = null ∨ next' i ∈ l) :
    next' i = next i := by
  obtain ⟨l₁, l₂, rfl⟩ := List.append_of_mem hi
  have hnodup := h.nodup
  simp only [List.nodup_append, List.nodup_cons, List.mem_cons] at hnodup
  obtain ⟨-, ⟨hl₂, -⟩, hdisjoint⟩ := hnodup
  obtain ⟨c, hpath, hchain⟩ := h.of_append
  obtain ⟨rfl, hne, hrest⟩ := chain_cons.1 hchain
  have hbefore : Path next' start l₁ c := by
    refine hpath.congr fun j hj => hother j (List.mem_append_left _ hj) ?_
    exact fun heq => hdisjoint j hj c (.inl rfl) heq
  have hnull : null ∉ l₁ := fun hmem => h.ne_null (List.mem_append_left _ hmem)
  -- the other chain comes to the node too, and goes on with as many nodes
  obtain ⟨r, rfl, hr⟩ := h'.of_path hbefore hnull
  cases r with
  | nil => exact absurd hr.path hne
  | cons d r =>
    obtain ⟨rfl, -, hr⟩ := chain_cons.1 hr
    have hafter : Chain null next' (next c) l₂ := by
      refine hrest.congr fun j hj => hother j (by simp [hj]) ?_
      exact fun heq => hl₂ (heq ▸ hj)
    have hlength' : r.length = l₂.length := by
      simp only [List.length_append, List.length_cons] at hlength
      omega
    refine (hafter.start_unique hr hlength' ?_).symm
    rcases hb with hb | hb
    · exact .inl hb
    · cases r with
      | nil => exact .inl hr.path
      | cons e r =>
        obtain ⟨rfl, -, -⟩ := chain_cons.1 hr
        have hvisits := h'.nodup
        simp only [List.nodup_append, List.nodup_cons, List.mem_cons] at hvisits
        simp only [List.mem_append, List.mem_cons] at hb
        rcases hb with hb | hb | hb
        · exact absurd rfl (hvisits.2.2 _ hb _ (.inr (.inl rfl)))
        · exact absurd (.inl hb.symm) hvisits.2.1.1
        · exact .inr hb

section Rerouted

variable [DecidableEq ι] {start start' p n : ι}
  (hstart : start' = if p = null then n else start)
  (hnext : ∀ j, j ≠ null → next' j = if p ≠ null ∧ j = p then n else next j)
include hstart hnext

/-- The node after `p`, or the first one if `p` is `null`, is made `n`: nothing changes if it
already is. -/
theorem Chain.rerouted (h : Chain null next start l)
    (heq : (if p = null then start else next p) = n) : Chain null next' start' l := by
  have hsame : ∀ j ∈ l, next' j = next j := by
    intro j hj
    rw [hnext j fun hnull => h.ne_null (hnull ▸ hj)]
    split
    · rename_i hjp
      rw [hjp.2, ← heq, if_neg hjp.1]
    · rfl
  have hstart' : start' = start := by
    rw [hstart]
    split
    · rename_i hp
      rw [← heq, if_pos hp]
    · rfl
  exact hstart' ▸ h.congr hsame

/-- And only then is the chain as long as it was. -/
theorem Chain.of_rerouted (h : Chain null next start l) (h' : Chain null next' start' l')
    (hlength : l'.length = l.length) (hp : p = null ∨ p ∈ l) (hn : n = null ∨ n ∈ l) :
    (if p = null then start else next p) = n := by
  by_cases hp0 : p = null
  · rw [if_pos hp0]
    rw [if_pos hp0] at hstart
    refine h.start_unique (hstart ▸ h'.congr fun j hj => ?_) hlength hn
    rw [hnext j fun hnull => h'.ne_null (hnull ▸ hj), if_neg fun hjp => hjp.1 hp0]
  · rw [if_neg hp0]
    rw [if_neg hp0] at hstart
    have hlink : next' p = n := by rw [hnext p hp0, if_pos ⟨hp0, rfl⟩]
    have hother : ∀ j ∈ l, j ≠ p → next' j = next j := by
      intro j hj hjp
      rw [hnext j fun hnull => h.ne_null (hnull ▸ hj), if_neg fun heq => hjp heq.2]
    exact hlink ▸ (h.link_unique (hstart ▸ h') hlength (hp.resolve_left hp0) hother
      (hlink.symm ▸ hn)).symm

end Rerouted

end Lib
