import UniversalNetwork.Transaction.Moves

/-!
# The life of a transaction

The history of a transaction is the part of the log that is about it. A transaction is requested
and sent, sent again by each retry, and then it ends in one of three ways (`Ending`): with the
response that found it, with the last timeout, or by `transactionRemoveAll`. The first and the third
may also come before the call has sent it. `Lifecycle` says that
every transaction of a configuration is somewhere on this path, and that the table and the queued
inserts only name live ones.

* `transactionStep_lifecycle`: one step keeps it.
* `transaction_ends_once`: what follows for the callbacks, the sends and the frees of every run.
-/

namespace UniversalNetwork

open Lib

/-! ## Histories -/

/-- The transaction an event is about. -/
def Event.transaction : Event → Option Nat
  | .request t _ | .send t | .response t _ | .complete t _ | .remove t | .errorCallback t
  | .delete t | .free t => some t
  | _ => none

def TransactionConfiguration.history (config : TransactionConfiguration) (t : Nat) : List Event :=
  config.log.filter fun e => e.transaction = some t

section History

variable {config config' : TransactionConfiguration} {es : List Event} {t : Nat}

theorem history_own (hlog : config'.log = config.log ++ es)
    (h : ∀ e ∈ es, e.transaction = some t) : config'.history t = config.history t ++ es := by
  have hes : es.filter (fun e => e.transaction = some t) = es :=
    List.filter_eq_self.2 fun e he => decide_eq_true (h e he)
  rw [TransactionConfiguration.history, hlog, List.filter_append, hes]
  rfl

theorem history_other (hlog : config'.log = config.log ++ es)
    (h : ∀ e ∈ es, e.transaction ≠ some t) : config'.history t = config.history t := by
  have hes : es.filter (fun e => e.transaction = some t) = [] :=
    List.filter_eq_nil_iff.2 fun e he => by simpa using h e he
  rw [TransactionConfiguration.history, hlog, List.filter_append, hes, List.append_nil]
  rfl

end History

/-- How a transaction ends after its packet was sent `n` times. -/
inductive Ending (errorCallback : Bool) (t : Nat) : Nat → List Event → Prop
  | responded (n : Nat) (responseType : UInt32) : Ending errorCallback t n
      (.response t responseType :: completion errorCallback t (responseState responseType))
  | timedOut : Ending errorCallback t (1 + kTransactionMaxRetries)
      (completion errorCallback t .timeout)
  | removed (n : Nat) : Ending errorCallback t n [.remove t, .delete t, .free t]

/-- The state of a live transaction at this point of its call. -/
def RequestCall.state : RequestCall → TransactionState
  | .returned => .waiting
  | _ => .idle

/-- How often the packet was sent. -/
def RequestCall.sends (retries : Nat) : RequestCall → Nat
  | .sending _ => 0
  | _ => 1 + retries

theorem returned_of_waiting {call : RequestCall} (h : call.state = .waiting) : call = .returned := by
  cases call with
  | returned => rfl
  | sending addr => cases h
  | arming => cases h

theorem sends_le (retries : Nat) (call : RequestCall) : call.sends retries ≤ 1 + retries := by
  cases call with
  | sending addr => exact Nat.zero_le _
  | arming => exact Nat.le_refl _
  | returned => exact Nat.le_refl _

/-- A live transaction. -/
structure Waiting (t : Nat) (transaction : Transaction) (call : RequestCall)
    (history : List Event) : Prop where
  state : transaction.state = call.state
  id : transaction.id = t % kTransactionMaxId
  retries : transaction.retries ≤ kTransactionMaxRetries
  first : call ≠ .returned → transaction.retries = 0
  history : ∃ object, history =
    .request t object :: List.replicate (call.sends transaction.retries) (.send t)

/-- A transaction that was freed. -/
def Ended (errorCallback : Bool) (t : Nat) (history : List Event) : Prop :=
  ∃ object n ending, n ≤ 1 + kTransactionMaxRetries ∧ Ending errorCallback t n ending ∧
    history = .request t object :: (List.replicate n (.send t) ++ ending)

structure Lifecycle (config : TransactionConfiguration) : Prop where
  cseq : config.cseq = config.heap.length % kTransactionMaxId
  table : ∀ id t, hashtableSearch config.transactions id = some t →
    ∃ transaction, config.live t = some transaction ∧ transaction.id = id
  /-- An insert in the queue is the only one for its transaction, which is not in the table yet. -/
  inserts : ∀ t, config.transactionsDispatchQueue.count (.insert t) ≤ 1
  queued : ∀ t, .insert t ∈ config.transactionsDispatchQueue → (config.live t).isSome ∧
    ∀ id, hashtableSearch config.transactions id ≠ some t
  waiting : ∀ t transaction, config.live t = some transaction →
    Waiting t transaction (config.calls t) (config.history t)
  ended : ∀ t < config.heap.length, config.live t = none →
    Ended config.errorCallback t (config.history t)
  fresh : ∀ t, config.heap.length ≤ t → config.history t = [] ∧ config.calls t = .returned

theorem completion_about (errorCallback : Bool) (t : Nat) (state : TransactionState) :
    ∀ e ∈ completion errorCallback t state, e.transaction = some t := by
  intro e he
  unfold completion at he
  split at he <;> simp only [List.mem_append, List.mem_cons, List.not_mem_nil, or_false] at he
  · rcases he with (rfl | rfl) | rfl | rfl <;> rfl
  · rcases he with rfl | rfl | rfl <;> rfl

theorem Ending.about {errorCallback : Bool} {t n : Nat} {ending : List Event}
    (h : Ending errorCallback t n ending) : ∀ e ∈ ending, e.transaction = some t := by
  cases h with
  | responded n responseType =>
    intro e he
    rcases List.mem_cons.1 he with rfl | he
    · rfl
    · exact completion_about _ _ _ e he
  | timedOut => exact completion_about _ _ _
  | removed n =>
    intro e he
    simp only [List.mem_cons, List.not_mem_nil, or_false] at he
    rcases he with rfl | rfl | rfl <;> rfl

/-! ## The heap -/

section Heap

variable {config config' : TransactionConfiguration} {t u : Nat}

theorem live_set {x : Option Transaction} (ht : t < config.heap.length)
    (hheap : config'.heap = config.heap.set t x) :
    config'.live u = if u = t then x else config.live u := by
  rw [TransactionConfiguration.live, hheap, List.getElem?_set]
  rcases Decidable.em (t = u) with rfl | h
  · rw [if_pos rfl, if_pos ht, if_pos rfl]
    rfl
  · rw [if_neg h, if_neg (Ne.symm h)]
    rfl

theorem live_concat {x : Option Transaction} (hheap : config'.heap = config.heap ++ [x]) :
    config'.live u = if u = config.heap.length then x else config.live u := by
  rw [TransactionConfiguration.live, hheap]
  rcases Decidable.em (u = config.heap.length) with rfl | h
  · rw [if_pos rfl, List.getElem?_concat_length]
    rfl
  · rw [if_neg h, TransactionConfiguration.live]
    rcases Nat.lt_or_ge u config.heap.length with hlt | hge
    · rw [List.getElem?_append_left hlt]
    · rw [List.getElem?_eq_none (by rw [List.length_append, List.length_singleton]; omega),
        List.getElem?_eq_none hge]

end Heap

/-! ## Effects -/

section Effects

variable {config config' : TransactionConfiguration} {t : Nat} {transaction : Transaction}

/-- Whatever leaves the transactions, the table and the queued inserts alone. -/
theorem Lifecycle.quiet (h : Lifecycle config) (hcseq : config'.cseq = config.cseq)
    (hheap : config'.heap = config.heap) (htable : config'.transactions = config.transactions)
    (herror : config'.errorCallback = config.errorCallback)
    (hcalls : config'.calls = config.calls)
    (hinserts : ∀ t, config'.transactionsDispatchQueue.count (.insert t) =
      config.transactionsDispatchQueue.count (.insert t))
    (hhistory : ∀ t, config'.history t = config.history t) : Lifecycle config' := by
  have hlive : ∀ t, config'.live t = config.live t := by
    intro t
    rw [TransactionConfiguration.live, hheap]
    rfl
  have hmem : ∀ t, .insert t ∈ config'.transactionsDispatchQueue ↔
      .insert t ∈ config.transactionsDispatchQueue := by
    intro t
    rw [← List.count_pos_iff, hinserts, List.count_pos_iff]
  constructor
  · rw [hcseq, hheap, h.cseq]
  · simpa only [htable, hlive] using h.table
  · simpa only [hinserts] using h.inserts
  · simpa only [hmem, hlive, htable] using h.queued
  · simpa only [hlive, hhistory, hcalls] using h.waiting
  · simpa only [hheap, hlive, herror, hhistory] using h.ended
  · simpa only [hheap, hhistory, hcalls] using h.fresh

/-- A live transaction is written to, and stays live. -/
theorem Lifecycle.update (h : Lifecycle config) (hlive : config.live t = some transaction)
    {transaction' : Transaction} {es : List Event}
    (hheap : config'.heap = config.heap.set t (some transaction'))
    (hcseq : config'.cseq = config.cseq) (htable : config'.transactions = config.transactions)
    (herror : config'.errorCallback = config.errorCallback)
    (hqueue : config'.transactionsDispatchQueue = config.transactionsDispatchQueue)
    (hcalls : ∀ u, u ≠ t → config'.calls u = config.calls u)
    (hlog : config'.log = config.log ++ es) (habout : ∀ e ∈ es, e.transaction = some t)
    (hwaiting : Waiting t transaction' (config'.calls t) (config.history t ++ es)) :
    Lifecycle config' := by
  have ht := live_lt hlive
  have hown := history_own hlog habout
  have hother : ∀ u, u ≠ t → config'.history u = config.history u := by
    intro u hu
    refine history_other hlog fun e he => ?_
    rw [habout e he]
    simpa using Ne.symm hu
  have hlength : config'.heap.length = config.heap.length := by
    rw [hheap, List.length_set]
  have hlive' : ∀ u, config'.live u = if u = t then some transaction' else config.live u :=
    fun u => live_set ht hheap
  have hid : transaction'.id = transaction.id := by
    rw [hwaiting.id, (h.waiting t transaction hlive).id]
  constructor
  · rw [hcseq, hlength, h.cseq]
  · intro id u hu
    rw [htable] at hu
    obtain ⟨tr, htr, hidu⟩ := h.table id u hu
    rw [hlive']
    rcases Decidable.em (u = t) with rfl | hne
    · rw [hlive] at htr
      obtain rfl := Option.some.inj htr
      exact ⟨transaction', if_pos rfl, hid.trans hidu⟩
    · exact ⟨tr, (if_neg hne).trans htr, hidu⟩
  · rw [hqueue]
    exact h.inserts
  · intro u hu
    rw [hqueue] at hu
    obtain ⟨hsome, hnot⟩ := h.queued u hu
    rw [hlive', htable]
    refine ⟨?_, hnot⟩
    split
    · rfl
    · exact hsome
  · intro u tr hu
    rw [hlive'] at hu
    rcases Decidable.em (u = t) with rfl | hne
    · rw [if_pos rfl] at hu
      obtain rfl := Option.some.inj hu
      rwa [hown]
    · rw [if_neg hne] at hu
      rw [hother u hne, hcalls u hne]
      exact h.waiting u tr hu
  · intro u hu hdead
    rw [hlive'] at hdead
    rcases Decidable.em (u = t) with rfl | hne
    · rw [if_pos rfl] at hdead
      cases hdead
    · rw [if_neg hne] at hdead
      rw [hother u hne, herror]
      exact h.ended u (hlength ▸ hu) hdead
  · intro u hu
    rw [hlength] at hu
    rw [hother u (by omega), hcalls u (by omega)]
    exact h.fresh u hu

theorem Lifecycle.id_eq (h : Lifecycle config) {id : Nat}
    (hsearch : hashtableSearch config.transactions id = some t)
    (hlive : config.live t = some transaction) : transaction.id = id := by
  obtain ⟨tr, htr, hid⟩ := h.table id t hsearch
  rw [hlive] at htr
  exact Option.some.inj htr ▸ hid

/-- A transaction that is in the table ends. -/
theorem Lifecycle.ending (h : Lifecycle config) {id : Nat}
    (hsearch : hashtableSearch config.transactions id = some t)
    (hlive : config.live t = some transaction) {es : List Event}
    (hending : Ending config.errorCallback t ((config.calls t).sends transaction.retries) es)
    (hheap : config'.heap = config.heap.set t none)
    (htable : config'.transactions = hashtableDelete config.transactions id)
    (hcseq : config'.cseq = config.cseq)
    (herror : config'.errorCallback = config.errorCallback)
    (hqueue : config'.transactionsDispatchQueue = config.transactionsDispatchQueue)
    (hcalls : config'.calls = config.calls)
    (hlog : config'.log = config.log ++ es) : Lifecycle config' := by
  have ht := live_lt hlive
  have hown := history_own hlog hending.about
  have hother : ∀ u, u ≠ t → config'.history u = config.history u := by
    intro u hu
    refine history_other hlog fun e he => ?_
    rw [hending.about e he]
    simpa using Ne.symm hu
  have hlength : config'.heap.length = config.heap.length := by
    rw [hheap, List.length_set]
  have hlive' : ∀ u, config'.live u = if u = t then none else config.live u :=
    fun u => live_set ht hheap
  have hid := h.id_eq hsearch hlive
  constructor
  · rw [hcseq, hlength, h.cseq]
  · intro key u hu
    rw [htable, hashtableSearch_delete] at hu
    rcases Decidable.em (key = id) with rfl | hkey
    · rw [if_pos rfl] at hu
      cases hu
    · rw [if_neg hkey] at hu
      obtain ⟨tr, htr, hidu⟩ := h.table key u hu
      have hne : u ≠ t := by
        rintro rfl
        rw [hlive] at htr
        exact hkey (hidu.symm.trans (Option.some.inj htr ▸ hid))
      exact ⟨tr, (hlive' u).trans ((if_neg hne).trans htr), hidu⟩
  · rw [hqueue]
    exact h.inserts
  · intro u hu
    rw [hqueue] at hu
    obtain ⟨hsome, hnot⟩ := h.queued u hu
    have hne : u ≠ t := by
      rintro rfl
      exact hnot id hsearch
    refine ⟨?_, fun key hkey => ?_⟩
    · rwa [hlive', if_neg hne]
    · rw [htable, hashtableSearch_delete] at hkey
      split at hkey
      · cases hkey
      · exact hnot key hkey
  · intro u tr hu
    rw [hlive'] at hu
    rcases Decidable.em (u = t) with rfl | hne
    · rw [if_pos rfl] at hu
      cases hu
    · rw [if_neg hne] at hu
      rw [hother u hne, hcalls]
      exact h.waiting u tr hu
  · intro u hu hdead
    rw [herror]
    rcases Decidable.em (u = t) with rfl | hne
    · obtain ⟨object, hhistory⟩ := (h.waiting u transaction hlive).history
      have hretries := (h.waiting u transaction hlive).retries
      have hsends := sends_le transaction.retries (config.calls u)
      refine ⟨object, (config.calls u).sends transaction.retries, es, by omega, hending, ?_⟩
      rw [hown, hhistory, List.cons_append]
    · rw [hlive', if_neg hne] at hdead
      rw [hother u hne]
      exact h.ended u (hlength ▸ hu) hdead
  · intro u hu
    rw [hlength] at hu
    rw [hother u (by omega), hcalls]
    exact h.fresh u hu

theorem Lifecycle.requested (h : Lifecycle config) (packet : Nat) (socket : NetSocket)
    (addr : NetAddr) (object : TransactionObject) :
    Lifecycle (config.requested packet socket addr object) := by
  have habout : ∀ e ∈ [Event.request config.heap.length object],
      e.transaction = some config.heap.length := by
    intro e he
    rw [List.mem_singleton.1 he]
    rfl
  have hcalls : ∀ u, u ≠ config.heap.length →
      (config.requested packet socket addr object).calls u = config.calls u :=
    fun u hu => config.calls_requested_of_ne addr object hu
  have hown := @history_own config (config.requested packet socket addr object) _ _ rfl habout
  rw [(h.fresh _ (Nat.le_refl _)).1] at hown
  have hother : ∀ u, u ≠ config.heap.length →
      (config.requested packet socket addr object).history u = config.history u := by
    intro u hu
    refine history_other rfl fun e he => ?_
    rw [habout e he]
    simpa using Ne.symm hu
  have hlength : (config.requested packet socket addr object).heap.length =
      config.heap.length + 1 := List.length_append
  have hlive := fun u => @live_concat config (config.requested packet socket addr object) u _ rfl
  have hdead : config.live config.heap.length = none := by
    rw [TransactionConfiguration.live, List.getElem?_eq_none (Nat.le_refl _)]
    rfl
  have hunqueued : Block.insert config.heap.length ∉ config.transactionsDispatchQueue := by
    intro hmem
    have := (h.queued _ hmem).1
    rw [hdead] at this
    cases this
  constructor
  · show (config.cseq + 1) % 256 % kTransactionMaxId = _
    rw [hlength, h.cseq]
    unfold kTransactionMaxId
    omega
  · intro id u hu
    obtain ⟨tr, htr, hid⟩ := h.table id u hu
    have hne : u ≠ config.heap.length := Nat.ne_of_lt (live_lt htr)
    exact ⟨tr, (hlive u).trans ((if_neg hne).trans htr), hid⟩
  · intro u
    show (config.transactionsDispatchQueue ++ [Block.insert config.heap.length]).count
      (Block.insert u) ≤ 1
    rw [List.count_append]
    rcases Decidable.em (u = config.heap.length) with rfl | hne
    · simp [List.count_eq_zero_of_not_mem hunqueued]
    · rw [List.count_eq_zero_of_not_mem (l := [Block.insert config.heap.length])]
      · exact h.inserts u
      · simpa using hne
  · intro u hu
    rcases List.mem_append.1 hu with hu | hu
    · obtain ⟨hsome, hnot⟩ := h.queued u hu
      refine ⟨?_, hnot⟩
      rw [hlive]
      split
      · rfl
      · exact hsome
    · obtain rfl : u = config.heap.length := by simpa using hu
      refine ⟨by rw [hlive, if_pos rfl]; rfl, fun id hid => ?_⟩
      obtain ⟨tr, htr, -⟩ := h.table id _ hid
      rw [hdead] at htr
      cases htr
  · intro u tr hu
    rw [hlive] at hu
    rcases Decidable.em (u = config.heap.length) with rfl | hne
    · rw [if_pos rfl] at hu
      obtain rfl := Option.some.inj hu
      rw [config.calls_requested_self]
      exact ⟨rfl, h.cseq, Nat.zero_le _, fun _ => rfl, object, hown⟩
    · rw [if_neg hne] at hu
      rw [hother u hne, hcalls u hne]
      exact h.waiting u tr hu
  · intro u hu hnone
    rw [hlive] at hnone
    rcases Decidable.em (u = config.heap.length) with rfl | hne
    · rw [if_pos rfl] at hnone
      cases hnone
    · rw [if_neg hne] at hnone
      rw [hother u hne]
      exact h.ended u (by omega) hnone
  · intro u hu
    rw [hother u (by omega), hcalls u (by omega)]
    exact h.fresh u (by omega)

/-- The call sends the packet, and nothing else changes about its transaction. -/
theorem Lifecycle.sentOff (h : Lifecycle config) {addr : NetAddr}
    (hcall : config.calls t = .sending addr) (hlive : config.live t = some transaction) :
    Lifecycle (config.sentOff t transaction addr) := by
  have hheap : config.heap = config.heap.set t (some transaction) := by
    obtain ⟨ht, hget⟩ := List.getElem?_eq_some_iff.1 (live_eq_some.1 hlive)
    rw [← hget, List.set_getElem_self]
  have hwaiting := h.waiting t transaction hlive
  rw [hcall] at hwaiting
  obtain ⟨object, hhistory⟩ := hwaiting.history
  have hretries := hwaiting.first nofun
  refine h.update hlive hheap rfl rfl rfl rfl (fun u hu => config.calls_sentOff_of_ne addr hu) rfl
    (fun e he => ?_) ?_
  · rw [List.mem_singleton.1 he]
    rfl
  · rw [config.calls_sentOff_self]
    refine ⟨hwaiting.state, hwaiting.id, hwaiting.retries, fun _ => hretries, object, ?_⟩
    rw [hhistory, hretries]
    rfl

theorem Lifecycle.armed (h : Lifecycle config) (hcall : config.calls t = .arming)
    (hlive : config.live t = some transaction) : Lifecycle (config.armed t transaction) := by
  have hwaiting := h.waiting t transaction hlive
  rw [hcall] at hwaiting
  refine h.update hlive rfl rfl rfl rfl rfl (fun u hu => config.calls_armed_of_ne hu)
    (List.append_nil _).symm nofun ?_
  rw [config.calls_armed_self, List.append_nil]
  exact ⟨rfl, hwaiting.id, hwaiting.retries, fun hne => absurd rfl hne, hwaiting.history⟩

theorem Lifecycle.inserted (h : Lifecycle config) {rest : List Block}
    (hqueue : config.transactionsDispatchQueue = .insert t :: rest)
    (hlive : config.live t = some transaction) :
    Lifecycle { config.popped rest with
      transactions := hashtableInsert config.transactions transaction.id t } := by
  have hcount := h.inserts t
  rw [hqueue, List.count_cons_self] at hcount
  have hrest : Block.insert t ∉ rest := List.count_eq_zero.1 (by omega)
  constructor
  · exact h.cseq
  · intro id u hu
    rw [hashtableSearch_insert] at hu
    split at hu
    · rename_i hkey
      obtain rfl := Option.some.inj hu
      exact ⟨transaction, hlive, hkey.1.symm⟩
    · exact h.table id u hu
  · intro u
    have hu := h.inserts u
    rw [hqueue, List.count_cons] at hu
    exact Nat.le_trans (Nat.le_add_right _ _) hu
  · intro u hu
    have hne : u ≠ t := by
      rintro rfl
      exact hrest hu
    obtain ⟨hsome, hnot⟩ := h.queued u (hqueue ▸ List.mem_cons_of_mem _ hu)
    refine ⟨hsome, fun id hid => ?_⟩
    rw [hashtableSearch_insert] at hid
    split at hid
    · exact hne (Option.some.inj hid).symm
    · exact hnot id hid
  · exact h.waiting
  · exact h.ended
  · exact h.fresh

end Effects

/-! ## Steps and runs -/

section Steps

variable {config config' : TransactionConfiguration} {action : TransactionAction}

theorem lifecycle_setup (agent : Agent) (memory : Nat → Vector UInt8 kNetPacketMaxLen)
    (receiveCallback errorCallback : Bool) :
    Lifecycle (transactionSetup agent memory receiveCallback errorCallback) where
  cseq := rfl
  table := fun id t h => by
    rw [transactionSetup, hashtableSearch_create] at h
    cases h
  inserts := fun _ => Nat.zero_le _
  queued := fun t h => by cases h
  waiting := fun t transaction h => by cases live_eq_some.1 h
  ended := fun t h => absurd h (Nat.not_lt_zero t)
  fresh := fun _ _ => ⟨rfl, rfl⟩

/-- A block that is not an insert leaves the queue. -/
theorem Lifecycle.popped (h : Lifecycle config) {block : Block} {rest : List Block}
    (hqueue : config.transactionsDispatchQueue = block :: rest)
    (hblock : ∀ t, block ≠ .insert t) : Lifecycle (config.popped rest) := by
  refine h.quiet rfl rfl rfl rfl rfl (fun t => ?_) fun _ => rfl
  rw [hqueue, List.count_cons_of_ne (hblock t)]
  rfl

theorem Lifecycle.onSocket (h : Lifecycle config) (socket : NetSocket) :
    Lifecycle (config.onSocket socket) :=
  h.quiet rfl rfl rfl rfl rfl (fun _ => rfl) fun _ => rfl

theorem Lifecycle.note (h : Lifecycle config) {es : List Event}
    (hes : ∀ e ∈ es, e.transaction = none) : Lifecycle (config.note es) := by
  refine h.quiet rfl rfl rfl rfl rfl (fun _ => rfl) fun t => history_other rfl fun e he => ?_
  rw [hes e he]
  exact nofun

theorem Lifecycle.released (h : Lifecycle config) (packet receipt : Nat) :
    Lifecycle (config.released packet receipt) :=
  (h.onSocket _).note fun e he => by
    rw [List.mem_singleton.1 he]
    rfl

theorem Lifecycle.dispatch (h : Lifecycle config) {block : Block}
    (hblock : ∀ t, block ≠ .insert t) : Lifecycle (config.dispatch block) := by
  refine h.quiet rfl rfl rfl rfl rfl (fun t => ?_) fun _ => rfl
  rw [TransactionConfiguration.dispatch, List.count_append,
    List.count_eq_zero_of_not_mem (l := [block])]
  · rfl
  · simpa using Ne.symm (hblock t)

theorem Lifecycle.retained (h : Lifecycle config) {block : Block}
    (hblock : ∀ t, block ≠ .insert t) (packet receipt : Nat) :
    Lifecycle (config.retained packet receipt block) :=
  ((h.onSocket _).note fun e he => by
    rw [List.mem_singleton.1 he]
    rfl).dispatch hblock

theorem receivedBlock_ne_insert {packet receipt : Nat} {id type : UInt32} {block : Block}
    (h : receivedBlock packet receipt id type = some block) (t : Nat) : block ≠ .insert t := by
  unfold receivedBlock at h
  split at h
  · obtain rfl := Option.some.inj h
    exact nofun
  split at h
  · obtain rfl := Option.some.inj h
    exact nofun
  · cases h

theorem plain_ne_insert {block : Block} (h : block.plain) (t : Nat) : block ≠ .insert t := by
  rintro rfl
  cases h

/-- **One step keeps every transaction on its path.** -/
theorem transactionStep_lifecycle (h : Lifecycle config)
    (hstep : transactionStep config action = some config') : Lifecycle config' := by
  cases transactionStep_move hstep with
  | idle hqueue => exact h
  | dispatched haction hplain => exact h.dispatch (plain_ne_insert hplain)
  | requested halloc hpack => exact h.requested _ _ _ _
  | sentOff hcall hlive => exact h.sentOff hcall hlive
  | armed hcall hlive => exact h.armed hcall hlive
  | unread hread hunread => exact h.onSocket _
  | read hlength hread =>
    refine h.quiet rfl rfl rfl rfl rfl (fun _ => rfl) fun t => history_other rfl fun e he => ?_
    rw [List.mem_singleton.1 he]
    exact nofun
  | ignored hreceived hread =>
    refine Lifecycle.released (Lifecycle.onSocket ?_ _) _ _
    exact h.quiet rfl rfl rfl rfl rfl (fun _ => rfl) fun _ => rfl
  | retained hreceived hread hblock =>
    refine Lifecycle.released (Lifecycle.retained (Lifecycle.onSocket ?_ _)
      (receivedBlock_ne_insert hblock) _ _) _ _
    exact h.quiet rfl rfl rfl rfl rfl (fun _ => rfl) fun _ => rfl
  | inserted hqueue hlive => exact h.inserted hqueue hlive
  | lost hqueue hsearch =>
    exact (h.popped hqueue nofun).quiet rfl rfl rfl rfl rfl (fun _ => rfl) fun _ => rfl
  | responded hqueue hsearch hlive hread =>
    obtain rfl := h.id_eq hsearch hlive
    refine Lifecycle.released ?_ _ _
    exact (h.popped hqueue nofun).ending hsearch hlive (.responded _ _) rfl rfl rfl rfl rfl rfl
      (List.append_assoc _ _ _)
  | served hqueue halloc hpack hread =>
    refine Lifecycle.released (Lifecycle.note (Lifecycle.onSocket
      ((h.popped hqueue nofun).onSocket _) _) fun e he => ?_) _ _
    unfold delivery at he
    split at he
    · rw [List.mem_singleton.1 he]
      rfl
    · cases he
  | retried hqueue hsearch hlive hstate hretries =>
    have hwaiting := h.waiting _ _ hlive
    have hcall := returned_of_waiting (hwaiting.state ▸ hstate)
    obtain ⟨object, hhistory⟩ := hwaiting.history
    refine (h.popped hqueue nofun).update hlive rfl rfl rfl rfl rfl (fun _ _ => rfl) rfl
      (fun e he => ?_) ⟨hwaiting.state, hwaiting.id, hretries, fun hne => absurd hcall hne,
        object, ?_⟩
    · rw [List.mem_singleton.1 he]
      rfl
    · show config.history _ ++ _ = _ :: List.replicate ((config.calls _).sends _) _
      rw [hhistory, hcall, List.cons_append]
      show _ :: (List.replicate (1 + _) _ ++ _) = _ :: List.replicate (1 + (_ + 1)) _
      rw [← List.replicate_succ', Nat.add_assoc]
  | timedOut hqueue hsearch hlive hstate hretries =>
    obtain rfl := h.id_eq hsearch hlive
    have hwaiting := h.waiting _ _ hlive
    have hsends := Nat.le_antisymm hwaiting.retries hretries
    refine (h.popped hqueue nofun).ending hsearch hlive ?_ rfl rfl rfl rfl rfl rfl rfl
    have hcall := returned_of_waiting (hwaiting.state ▸ hstate)
    show Ending config.errorCallback _ ((config.calls _).sends _) _
    rw [hcall, hsends]
    exact .timedOut
  | switched hqueue hplain =>
    exact (h.popped hqueue (plain_ne_insert hplain)).quiet rfl rfl rfl rfl rfl (fun _ => rfl)
      fun _ => rfl
  | removedAll hqueue hremove =>
    refine transactionRemoveAll_inv (P := Lifecycle) ?_ ?_ hremove
    · intro c key t tr hc hsearch hlive
      exact hc.ending hsearch hlive (.removed _) rfl rfl rfl rfl rfl rfl rfl
    · exact (h.popped hqueue nofun).quiet rfl rfl rfl rfl rfl (fun _ => rfl) fun _ => rfl
  | timeoutFired hlive =>
    have hwaiting := h.waiting _ _ hlive
    refine h.update hlive rfl rfl rfl rfl rfl (fun _ _ => rfl) (List.append_nil _).symm nofun ?_
    rw [List.append_nil]
    exact ⟨hwaiting.state, hwaiting.id, hwaiting.retries, hwaiting.first, hwaiting.history⟩
  | socketBlock => exact h.onSocket _
  | write => exact h.onSocket _

theorem run_lifecycle {agent : Agent} {memory : Nat → Vector UInt8 kNetPacketMaxLen}
    {receiveCallback errorCallback : Bool} {actions : List TransactionAction}
    (h : run transactionStep (transactionSetup agent memory receiveCallback errorCallback) actions =
      some config) : Lifecycle config :=
  run_inv (lifecycle_setup agent memory receiveCallback errorCallback)
    (fun _ _ _ => transactionStep_lifecycle) h

end Steps

/-! ## At most once -/

section Once

variable {config : TransactionConfiguration} {t : Nat}

theorem count_log (e : Event) (h : e.transaction = some t) :
    (config.history t).count e = config.log.count e :=
  List.count_filter (decide_eq_true h)

theorem mem_log (e : Event) (h : e.transaction = some t) :
    e ∈ config.history t ↔ e ∈ config.log := by
  rw [TransactionConfiguration.history, List.mem_filter, decide_eq_true_iff]
  exact and_iff_left h

/-- What the events about a transaction come to. -/
structure EndsOnce (t : Nat) (log : List Event) : Prop where
  delete : log.count (.delete t) ≤ 1
  free : log.count (.free t) ≤ 1
  errorCallback : log.count (.errorCallback t) ≤ 1
  /-- The error callback runs for a response that is not Success, or for the last timeout. -/
  failed : .errorCallback t ∈ log →
    (∃ responseType, .response t responseType ∈ log ∧
      responseType ≠ TransactionResponseType.success.code) ∨
    (.complete t .timeout ∈ log ∧ log.count (.send t) = 1 + kTransactionMaxRetries)
  notAcknowledged : .errorCallback t ∈ log → .complete t .acknowledged ∉ log
  notRemoved : .errorCallback t ∈ log → .remove t ∉ log
  sends : log.count (.send t) ≤ 1 + kTransactionMaxRetries

theorem EndsOnce.log (h : EndsOnce t (config.history t)) : EndsOnce t config.log := by
  obtain ⟨hdelete, hfree, herror, hfailed, hack, hremove, hsends⟩ := h
  rw [count_log (.delete t) rfl] at hdelete
  rw [count_log (.free t) rfl] at hfree
  rw [count_log (.errorCallback t) rfl] at herror
  rw [mem_log (.errorCallback t) rfl] at hfailed hack hremove
  rw [mem_log (.complete t _) rfl, count_log (.send t) rfl] at hfailed
  rw [mem_log (.complete t _) rfl] at hack
  rw [mem_log (.remove t) rfl] at hremove
  rw [count_log (.send t) rfl] at hsends
  refine ⟨hdelete, hfree, herror, fun he => ?_, hack, hremove, hsends⟩
  rcases hfailed he with ⟨responseType, hmem, hne⟩ | h
  · exact .inl ⟨responseType, (mem_log _ rfl).1 hmem, hne⟩
  · exact .inr h

theorem endsOnce_nil : EndsOnce t [] := by
  constructor <;> simp

theorem Waiting.endsOnce {transaction : Transaction} {call : RequestCall} {history : List Event}
    (h : Waiting t transaction call history) : EndsOnce t history := by
  obtain ⟨object, rfl⟩ := h.history
  have hsends : call.sends transaction.retries ≤ 1 + kTransactionMaxRetries :=
    Nat.le_trans (sends_le _ _) (Nat.add_le_add_left h.retries 1)
  constructor <;> simp [List.count_replicate]
  exact hsends

theorem Ended.endsOnce {errorCallback : Bool} {history : List Event}
    (h : Ended errorCallback t history) : EndsOnce t history := by
  obtain ⟨object, n, ending, hn, hending, rfl⟩ := h
  cases hending with
  | responded n responseType =>
    unfold completion responseState
    rcases Decidable.em (responseType = TransactionResponseType.success.code) with hty | hty
    · constructor <;> simp [hty, List.count_replicate, hn]
    · cases errorCallback
      · constructor <;> simp [hty, List.count_replicate, hn]
      · constructor <;> simp [hty, List.count_replicate, hn]
  | timedOut =>
    unfold completion
    cases errorCallback
    · constructor <;> simp [List.count_replicate]
    · constructor <;> simp [List.count_replicate]
  | removed n =>
    constructor <;> simp [List.count_replicate, hn]

theorem Lifecycle.endsOnce (h : Lifecycle config) (t : Nat) : EndsOnce t config.log := by
  refine EndsOnce.log ?_
  rcases Nat.lt_or_ge t config.heap.length with hlt | hge
  · cases hlive : config.live t with
    | some transaction => exact (h.waiting t transaction hlive).endsOnce
    | none => exact (h.ended t hlt hlive).endsOnce
  · rw [(h.fresh t hge).1]
    exact endsOnce_nil

/-- **Each transaction ends at most once**, in every run. -/
theorem transaction_ends_once {agent : Agent} {memory : Nat → Vector UInt8 kNetPacketMaxLen}
    {receiveCallback errorCallback : Bool} {actions : List TransactionAction}
    (h : run transactionStep (transactionSetup agent memory receiveCallback errorCallback) actions =
      some config) (t : Nat) :
    EndsOnce t config.log ∧ ∀ transaction, config.live t = some transaction →
      transaction.retries ≤ kTransactionMaxRetries := by
  have hlife := run_lifecycle h
  exact ⟨hlife.endsOnce t, fun transaction hlive => (hlife.waiting t transaction hlive).retries⟩

/-- A request that nobody answers. -/
def unanswered : List TransactionAction :=
  [.request .zeroed (.plain TransactionRequestType.empty.code empty_not_struct), .proceed 0,
    .proceed 0, .block, .timeout 0, .block, .timeout 0, .block, .timeout 0, .block]

theorem transaction_ends_once_unanswered : ∃ config, run transactionStep
    (transactionSetup .client (fun _ => Vector.replicate _ 0) true true) unanswered = some config ∧
    config.log.count (.errorCallback 0) = 1 ∧ EndsOnce 0 config.log := by
  have hrun : (run transactionStep (transactionSetup .client (fun _ => Vector.replicate _ 0) true
      true) unanswered).map (·.log.count (.errorCallback 0)) = some 1 := by
    decide +kernel
  obtain ⟨config, h, hcount⟩ := Option.map_eq_some_iff.1 hrun
  exact ⟨config, h, hcount, (transaction_ends_once h 0).1⟩

end Once

end UniversalNetwork
