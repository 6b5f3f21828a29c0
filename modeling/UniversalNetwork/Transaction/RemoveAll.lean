import UniversalNetwork.Hashtable.Iteration
import UniversalNetwork.Timeout.Ownership
import UniversalNetwork.Transaction.Moves

/-!
# Removing all transactions

`transactionRemoveAll` once more, with the loop of `hashtable_iterate` as it is written and the
timeouts of the transactions, which the configuration only has the flags of. `destroyed` are the
calls of `timeout_destroy`.

* `bulk_removal`: `hashtable_iterate` reaches every entry once, so that every transaction in the
  table is removed once, and nothing else is touched.
-/

namespace UniversalNetwork

open Lib

structure TimedConfiguration where
  config : TransactionConfiguration
  /-- `transaction->timeout` -/
  timeouts : Nat → TimeoutState
  destroyed : List Nat

namespace TimedConfiguration

def transactions (s : TimedConfiguration) : Hashtable Nat := s.config.transactions

def destroyTimeout (s : TimedConfiguration) (t : Nat) : TimedConfiguration :=
  { s with
    timeouts := Function.update s.timeouts t (timeoutDestroy (s.timeouts t))
    destroyed := s.destroyed ++ [t] }

end TimedConfiguration

/-- The block of `transactionRemoveAll`. -/
def timedRemoveBlock (transactionId t : Nat) (s : TimedConfiguration) :
    Option TimedConfiguration := do
  let config := { s.config with
    transactions := hashtableDelete s.config.transactions transactionId }.note
      [.remove t, .delete t]
  let config ← transactionDestroyTimeout config t
  let s := s.destroyTimeout t
  let config ← transactionFree config t
  some { s with config }

def timedRemoveAll (s : TimedConfiguration) : Option TimedConfiguration :=
  hashtableIterateLoop TimedConfiguration.transactions timedRemoveBlock s

namespace TimedConfiguration

/-- The table holds allocated transactions under their own ids. -/
def OwnIds (s : TimedConfiguration) : Prop :=
  ∀ key t, hashtableSearch s.transactions key = some t →
    ∃ transaction, s.config.live t = some transaction ∧ transaction.id = key

/-- The transactions in the table, in the order of their ids. -/
def entries (s : TimedConfiguration) (n : Nat) : List Nat :=
  (List.range n).filterMap s.transactions.objects

/-- Their packets. -/
def packets (s : TimedConfiguration) (ts : List Nat) : List Nat :=
  ts.filterMap fun t => (s.config.live t).map Transaction.packet

/-- Each transaction in the table is removed once, and nothing else changes. -/
structure RemovesAll (s s' : TimedConfiguration) (ts : List Nat) : Prop where
  nodup : ts.Nodup
  mem : ∀ t, t ∈ ts ↔ ∃ key, hashtableSearch s.transactions key = some t
  table : ∀ key, hashtableSearch s'.transactions key = none
  maxKey : s'.transactions.maxKey = s.transactions.maxKey
  destroyed : s'.destroyed = s.destroyed ++ ts
  timeouts : ∀ t, s'.timeouts t = if t ∈ ts then timeoutDestroy (s.timeouts t) else s.timeouts t
  packets : ts.map (fun t => (s.config.live t).map Transaction.packet) = (s.packets ts).map some
  socket : s'.config.socket = (s.packets ts).foldl netPacketRelease s.config.socket
  heap : ∀ t, s'.config.heap[t]? = if t ∈ ts then some none else s.config.heap[t]?
  log : s'.config.log = s.config.log ++ ts.flatMap fun t => [.remove t, .delete t, .free t]
  rest : s'.config = { s.config with
    transactions := s'.config.transactions, socket := s'.config.socket
    heap := s'.config.heap, log := s'.config.log }

/-- What is left after the removal of these transactions, which were the entries of the first `n`
keys. -/
def without (s : TimedConfiguration) (n : Nat) (ts : List Nat) : TimedConfiguration where
  config := { s.config with
    transactions := { s.transactions with
      objects := fun key => if key < n then none else s.transactions.objects key }
    socket := (s.packets ts).foldl netPacketRelease s.config.socket
    heap := ts.foldl (fun heap t => heap.set t none) s.config.heap
    log := s.config.log ++ ts.flatMap fun t => [.remove t, .delete t, .free t] }
  timeouts := ts.foldl (fun timeouts t =>
    Function.update timeouts t (timeoutDestroy (timeouts t))) s.timeouts
  destroyed := s.destroyed ++ ts

/-! ## One removal -/

section Removal

variable {s : TimedConfiguration} {key t n : Nat} {ts : List Nat}

theorem timedRemoveBlock_eq : timedRemoveBlock key t s =
    (removeBlock key t s.config).map fun config => { s.destroyTimeout t with config } := by
  rw [timedRemoveBlock, removeBlock]
  dsimp only
  cases transactionDestroyTimeout _ t with
  | none => rfl
  | some config =>
    simp only [Option.bind_eq_bind, Option.bind_some]
    cases transactionFree config t <;> rfl

theorem getElem?_foldl_set (heap : List (Option Transaction)) (i : Nat) :
    (ts.foldl (fun heap t => heap.set t none) heap)[i]? =
      if i ∈ ts ∧ i < heap.length then some none else heap[i]? := by
  induction ts generalizing heap with
  | nil => simp
  | cons t ts ih =>
    rw [List.foldl_cons, ih, List.length_set, List.getElem?_set]
    by_cases hi : i < heap.length
    · by_cases ht : t = i
      · subst ht
        simp [hi]
      · simp [hi, ht, Ne.symm ht]
    · simp [hi]
      omega

theorem map_eq_map_some {f : Nat → Option Nat} (h : ∀ t ∈ ts, (f t).isSome) :
    ts.map f = (ts.filterMap f).map some := by
  induction ts with
  | nil => rfl
  | cons t ts ih =>
    obtain ⟨ht, hts⟩ := List.forall_mem_cons.1 h
    obtain ⟨packet, hpacket⟩ := Option.isSome_iff_exists.1 ht
    rw [List.map_cons, ih hts, List.filterMap_cons_some hpacket, List.map_cons, hpacket]

theorem foldl_update_destroy (hnodup : ts.Nodup) (timeouts : Nat → TimeoutState) (i : Nat) :
    ts.foldl (fun timeouts t => Function.update timeouts t (timeoutDestroy (timeouts t))) timeouts i =
      if i ∈ ts then timeoutDestroy (timeouts i) else timeouts i := by
  induction ts generalizing timeouts with
  | nil => rfl
  | cons t ts ih =>
    obtain ⟨hnot, hnodup⟩ := List.nodup_cons.1 hnodup
    rw [List.foldl_cons, ih hnodup]
    by_cases hi : i = t
    · subst hi
      simp [hnot]
    · simp [hi]

/-- The next key has no entry. -/
theorem without_pass (hnone : s.transactions.objects n = none) :
    s.without (n + 1) ts = s.without n ts := by
  have hobjects : (fun key => if key < n + 1 then none else s.transactions.objects key) =
      fun key => if key < n then none else s.transactions.objects key := by
    funext key
    rcases Nat.lt_trichotomy key n with hlt | rfl | hgt
    · rw [if_pos (by omega), if_pos hlt]
    · rw [if_pos (Nat.lt_succ_self key), if_neg (Nat.lt_irrefl key), hnone]
    · rw [if_neg (by omega), if_neg (by omega)]
  rw [without, hobjects, without]

/-- The next key has an entry, which is still there. -/
theorem without_remove {transaction : Transaction} (hlive : s.config.live t = some transaction)
    (ht : t ∉ ts) (hn : n ≤ s.transactions.maxKey) :
    timedRemoveBlock n t (s.without n ts) = some (s.without (n + 1) (ts ++ [t])) := by
  have hlt : t < s.config.heap.length := live_lt hlive
  have hlive' : (s.without n ts).config.live t = some transaction := by
    have hget : (s.without n ts).config.heap[t]? = s.config.heap[t]? :=
      (getElem?_foldl_set s.config.heap t).trans (if_neg fun h => ht h.1)
    exact (congrArg Option.join hget).trans hlive
  have hpackets : s.packets (ts ++ [t]) = s.packets ts ++ [transaction.packet] := by
    simp [packets, hlive]
  have hdelete : hashtableDelete (s.without n ts).config.transactions n =
      (s.without (n + 1) (ts ++ [t])).config.transactions := by
    have hobjects : Function.update (fun key => if key < n then none else
        s.transactions.objects key) n none =
        fun key => if key < n + 1 then none else s.transactions.objects key := by
      funext key
      rcases Nat.lt_trichotomy key n with hlt | rfl | hgt
      · rw [Function.update_of_ne (by omega), if_pos hlt, if_pos (by omega)]
      · rw [Function.update_self, if_pos (Nat.lt_succ_self key)]
      · rw [Function.update_of_ne (by omega), if_neg (by omega), if_neg (by omega)]
    rw [hashtableDelete, if_pos (show n ≤ (s.without n ts).config.transactions.maxKey from hn)]
    exact congrArg (Hashtable.mk s.transactions.maxKey) hobjects
  rw [timedRemoveBlock_eq, removeBlock_eq n hlive', Option.map_some, Option.some.injEq]
  simp only [TransactionConfiguration.removed, hdelete]
  simp [without, destroyTimeout, hpackets, List.foldl_append, List.flatMap_append]

end Removal

/-! ## All of them -/

section All

variable {s : TimedConfiguration}

theorem OwnIds.entry (h : s.OwnIds) {key t : Nat} (hkey : key ≤ s.transactions.maxKey)
    (ht : s.transactions.objects key = some t) :
    ∃ transaction, s.config.live t = some transaction ∧ transaction.id = key :=
  h key t (by rw [hashtableSearch, if_pos hkey, ht])

/-- A transaction is in the table once. -/
theorem OwnIds.unique (h : s.OwnIds) {key key' t : Nat} (hkey : key ≤ s.transactions.maxKey)
    (hkey' : key' ≤ s.transactions.maxKey) (ht : s.transactions.objects key = some t)
    (ht' : s.transactions.objects key' = some t) : key = key' := by
  obtain ⟨transaction, hlive, rfl⟩ := h.entry hkey ht
  obtain ⟨transaction', hlive', rfl⟩ := h.entry hkey' ht'
  rw [Option.some.inj (hlive.symm.trans hlive')]

theorem mem_entries {n t : Nat} : t ∈ s.entries n ↔ ∃ key < n, s.transactions.objects key = some t := by
  simp [entries]

theorem entries_succ (n : Nat) :
    s.entries (n + 1) = s.entries n ++ (s.transactions.objects n).toList := by
  rw [entries, List.range_succ, List.filterMap_append]
  cases hn : s.transactions.objects n <;> simp [entries, hn]

theorem OwnIds.not_mem_entries (h : s.OwnIds) {n t : Nat} (hn : n ≤ s.transactions.maxKey)
    (ht : s.transactions.objects n = some t) : t ∉ s.entries n := by
  intro hmem
  obtain ⟨key, hkey, hentry⟩ := mem_entries.1 hmem
  exact absurd (h.unique (by omega) hn hentry ht) (by omega)

theorem OwnIds.nodup_entries (h : s.OwnIds) {n : Nat} (hn : n ≤ s.transactions.maxKey + 1) :
    (s.entries n).Nodup := by
  induction n with
  | zero => exact List.nodup_nil
  | succ n ih =>
    rw [entries_succ]
    cases ht : s.transactions.objects n with
    | none => simpa using ih (by omega)
    | some t =>
      refine List.nodup_append.2 ⟨ih (by omega), by simp, ?_⟩
      rintro i hi j hj rfl
      rw [List.mem_singleton.1 hj] at hi
      exact h.not_mem_entries (by omega) ht hi

theorem OwnIds.iterate (h : s.OwnIds) {n : Nat} (hn : n ≤ s.transactions.maxKey + 1) :
    hashtableIterateUpTo transactions timedRemoveBlock n s = some (s.without n (s.entries n)) := by
  induction n with
  | zero => simp [hashtableIterateUpTo, without, entries, packets, transactions]
  | succ n ih =>
    rw [hashtableIterateUpTo_succ, ih (by omega), Option.bind_some, iterateTurn, entries_succ]
    have hentry : (s.without n (s.entries n)).transactions.objects n = s.transactions.objects n :=
      if_neg (Nat.lt_irrefl n)
    rw [hentry]
    cases ht : s.transactions.objects n with
    | none => rw [Option.toList_none, List.append_nil, without_pass ht]
    | some t =>
      obtain ⟨transaction, hlive, -⟩ := h.entry (by omega) ht
      exact without_remove hlive (h.not_mem_entries (by omega) ht) (by omega)

theorem timedRemoveBlock_keeps : KeepsMaxKey transactions timedRemoveBlock := by
  intro key t s s' h
  rw [timedRemoveBlock_eq] at h
  obtain ⟨config, hconfig, rfl⟩ := Option.map_eq_some_iff.1 h
  obtain ⟨c₁, h₁, -⟩ := Option.bind_eq_some_iff.1 hconfig
  obtain ⟨transaction, hlive, -⟩ := Option.bind_eq_some_iff.1 h₁
  replace hlive : s.config.live t = some transaction := hlive
  rw [removeBlock_eq key hlive] at hconfig
  obtain rfl := Option.some.inj hconfig
  exact maxKey_delete

theorem OwnIds.removesAll (h : s.OwnIds) (hmax : s.transactions.maxKey < 2 ^ 32 - 1) :
    ∃ s' ts, timedRemoveAll s = some s' ∧ s.RemovesAll s' ts := by
  set n := s.transactions.maxKey + 1 with hn
  have hnodup := h.nodup_entries (Nat.le_of_eq hn)
  have hlive : ∀ t ∈ s.entries n, ∃ transaction, s.config.live t = some transaction := by
    intro t ht
    obtain ⟨key, hkey, hentry⟩ := mem_entries.1 ht
    obtain ⟨transaction, hlive, -⟩ := h.entry (by omega) hentry
    exact ⟨transaction, hlive⟩
  refine ⟨s.without n (s.entries n), s.entries n, ?_, ?_⟩
  · rw [timedRemoveAll, hashtableIterateLoop_eq timedRemoveBlock_keeps hmax]
    exact h.iterate (Nat.le_of_eq hn)
  · refine ⟨hnodup, fun t => ?_, fun key => ?_, rfl, rfl, foldl_update_destroy hnodup s.timeouts,
      ?_, rfl, fun t => ?_, rfl, rfl⟩
    · rw [mem_entries]
      refine exists_congr fun key => ?_
      rw [hashtableSearch]
      split <;> simp <;> omega
    · rw [hashtableSearch]
      split
      · exact if_pos (by show key < n; rename_i hkey; exact Nat.lt_succ_of_le hkey)
      · rfl
    · refine map_eq_map_some fun t ht => ?_
      obtain ⟨transaction, hlive⟩ := hlive t ht
      rw [hlive]
      rfl
    · refine (getElem?_foldl_set s.config.heap t).trans (if_congr ?_ rfl rfl)
      refine and_iff_left_of_imp fun ht => ?_
      obtain ⟨transaction, hlive⟩ := hlive t ht
      exact live_lt hlive

/-- The configuration is what `transactionRemoveAll` makes of it. -/
theorem timedRemoveAll_config (hmax : s.transactions.maxKey < 2 ^ 32 - 1) :
    (timedRemoveAll s).map config = transactionRemoveAll s.config := by
  rw [timedRemoveAll, hashtableIterateLoop_eq timedRemoveBlock_keeps hmax]
  refine hashtableIterateUpTo_map (fun _ => rfl) (fun key t s => ?_) _ s
  rw [timedRemoveBlock_eq]
  cases removeBlock key t s.config <;> rfl

/-- A transaction that owned the source of its timeout has no timer any more. -/
theorem RemovesAll.not_live {s' : TimedConfiguration} {ts : List Nat} (h : s.RemovesAll s' ts)
    {t k : Nat} (ht : t ∈ ts) (howns : OwnsSource (s.timeouts t)) : ¬ (s'.timeouts t).Live k := by
  rw [h.timeouts, if_pos ht]
  exact howns.not_live_destroy

end All

end TimedConfiguration

/-- **Bulk removal**: `hashtable_iterate` calls its block in the order of the keys, once for each
entry that it comes to, and `transactionRemoveAll` removes each transaction in the table once and
touches nothing else. -/
theorem bulk_removal :
    (∀ (α σ : Type) (table : σ → Hashtable α) (block : Nat → α → σ → Option σ) (s : σ),
      KeepsMaxKey table block → (table s).maxKey < 2 ^ 32 - 1 → IteratesOnce table block s) ∧
      ∀ s : TimedConfiguration, s.transactions.maxKey < 2 ^ 32 - 1 → s.OwnIds →
        ∃ s' ts, timedRemoveAll s = some s' ∧ s.RemovesAll s' ts :=
  ⟨fun _ _ _ _ _ hkeeps hmax => hashtable_iterates_once hkeeps hmax,
    fun _ hmax hown => hown.removesAll hmax⟩

/-- Two transactions in the table, of three. -/
theorem bulk_removal_two :
    let s : TimedConfiguration := ⟨{ transactionSetup .client (fun _ => Vector.replicate _ 0) true true with
      transactions := ⟨kTransactionMaxId, fun key =>
        if key = 3 then some 1 else if key = 5 then some 0 else none⟩
      heap := [some ⟨.waiting, 5, 0, 0, true⟩, some ⟨.waiting, 3, 1, 0, true⟩,
        some ⟨.waiting, 4, 2, 0, true⟩] }, fun _ => timeoutInit, []⟩
    s.OwnIds ∧ ∃ s' ts, timedRemoveAll s = some s' ∧ s.RemovesAll s' ts := by
  intro s
  have hown : s.OwnIds := by
    intro key t ht
    rw [hashtableSearch] at ht
    split at ht
    · simp only [s, TimedConfiguration.transactions] at ht
      split at ht
      · rename_i hkey
        cases ht
        exact ⟨_, rfl, hkey.symm⟩
      · split at ht
        · rename_i hkey
          cases ht
          exact ⟨_, rfl, hkey.symm⟩
        · cases ht
    · cases ht
  exact ⟨hown, bulk_removal.2 s (by decide) hown⟩

end UniversalNetwork
