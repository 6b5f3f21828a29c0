import UniversalNetwork.Lib.Machine
import UniversalNetwork.NetSocket.Ownership

/-!
# The send pipeline of a socket

Callers get packets, fill, retain, release and send them in any order, while the socket's serial
queue runs push blocks and write events. `SendPipeline` adds two ghost fields to the socket: the
references the callers hold, and the calls of `net_socket_send` (of packets that are not empty;
empty ones are not queued up).

`send_pipeline`: what was handed to `sendto`, what is pending and what is still to be pushed is the
sequence of calls; the write source is running while anything is pending; and while callers only
work with packets they hold, the retain counts are the references.
-/

namespace UniversalNetwork

open Lib

structure SendPipeline where
  socket : NetSocket
  refs : Nat → Nat
  calls : List Nat

inductive PipelineAction
  | alloc
  /-- The caller writes to the packet. -/
  | fill (packet : Nat) (contents : NetPacket)
  | retain (packet : Nat)
  | release (packet : Nat)
  | send (packet : Nat)
  /-- The next block of `socketDispatchQueue`. -/
  | socketBlock
  | write

def pipelineStep (p : SendPipeline) : PipelineAction → Option SendPipeline
  | .alloc =>
    match netPacketAlloc p.socket with
    | none => some p
    | some (i, socket) =>
      some { p with socket, refs := Function.update p.refs i (p.refs i + 1) }
  | .fill i contents => some { p with socket := p.socket.setPacket i contents }
  | .retain i => some { p with
      socket := netPacketRetain p.socket i, refs := Function.update p.refs i (p.refs i + 1) }
  | .release i => some { p with
      socket := netPacketRelease p.socket i, refs := Function.update p.refs i (p.refs i - 1) }
  | .send i => some { p with
      socket := netSocketSend p.socket i
      calls := if 0 < (p.socket.packet i).bitstream.offset then p.calls ++ [i] else p.calls }
  | .socketBlock => some { p with socket := netSocketRunBlock p.socket }
  | .write => some { p with socket := netSocketWriteEvent p.socket }

def pipelineCreate (memory : Nat → Vector UInt8 kNetPacketMaxLen) : SendPipeline where
  socket := netSocketCreate memory
  refs := fun _ => 0
  calls := []

/-- References to the packet, from callers and queues. -/
def SendPipeline.references (p : SendPipeline) (i : Nat) : Nat :=
  p.refs i + (p.socket.socketDispatchQueue.count i + p.socket.pendingPackets.count i)

/-- Callers release what they hold, and retain and send what has not been freed. -/
def HeldByCaller (p : SendPipeline) : PipelineAction → Prop
  | .release i => 0 < p.refs i
  | .retain i | .send i => 0 < p.references i
  | _ => True

instance (p : SendPipeline) : ∀ action, Decidable (HeldByCaller p action)
  | .release i => inferInstanceAs (Decidable (0 < p.refs i))
  | .retain i | .send i => inferInstanceAs (Decidable (0 < p.references i))
  | .alloc | .fill _ _ | .socketBlock | .write => .isTrue trivial

/-! ## Order -/

/-- The packets of the calls, from the oldest on, and the state of the write source. -/
structure InOrder (p : SendPipeline) : Prop where
  order : p.socket.sent.map Prod.fst ++ p.socket.pendingPackets ++ p.socket.socketDispatchQueue =
    p.calls
  awake : p.socket.pendingPackets ≠ [] → p.socket.isSending = true
  /-- The packet of a read event is a reference of its consumer's here. -/
  claimed : p.socket.unclaimed = []

section Steps

variable {p p' : SendPipeline} {action : PipelineAction}

/-- The queues, the sends and the write source are left alone. -/
theorem InOrder.congr (h : InOrder p) (hcalls : p'.calls = p.calls)
    (hsent : p'.socket.sent = p.socket.sent)
    (hpending : p'.socket.pendingPackets = p.socket.pendingPackets)
    (hqueue : p'.socket.socketDispatchQueue = p.socket.socketDispatchQueue)
    (hsending : p'.socket.isSending = p.socket.isSending)
    (hclaimed : p'.socket.unclaimed = p.socket.unclaimed) : InOrder p' where
  order := by
    rw [hcalls, hsent, hpending, hqueue]
    exact h.order
  awake := by
    rw [hpending, hsending]
    exact h.awake
  claimed := hclaimed.trans h.claimed

theorem pipelineStep_inOrder (h : InOrder p) (hstep : pipelineStep p action = some p') :
    InOrder p' := by
  cases action with
  | alloc =>
    rw [pipelineStep] at hstep
    cases ha : netPacketAlloc p.socket with
    | none =>
      rw [ha] at hstep
      exact Option.some.inj hstep ▸ h
    | some alloc =>
      rw [ha] at hstep
      obtain rfl := Option.some.inj hstep
      obtain ⟨pool, -, -, hs⟩ := netPacketAlloc_eq ha
      refine h.congr rfl ?_ ?_ ?_ ?_ ?_ <;> dsimp only <;> rw [hs] <;> rfl
  | fill i contents =>
    obtain rfl := Option.some.inj hstep
    exact h.congr rfl rfl rfl rfl rfl rfl
  | retain i =>
    obtain rfl := Option.some.inj hstep
    exact h.congr rfl rfl rfl rfl rfl rfl
  | release i =>
    obtain rfl := Option.some.inj hstep
    exact h.congr rfl rfl rfl rfl rfl rfl
  | send i =>
    obtain rfl := Option.some.inj hstep
    constructor
    · show (netSocketSend p.socket i).sent.map Prod.fst ++ _ ++ _ = _
      rw [netSocketSend_eq]
      dsimp only
      split
      · show p.socket.sent.map Prod.fst ++ p.socket.pendingPackets ++
          (p.socket.socketDispatchQueue ++ [i]) = p.calls ++ [i]
        rw [← h.order, List.append_assoc _ _ [i]]
      · exact h.order
    · show (netSocketSend p.socket i).pendingPackets ≠ [] → _
      rw [netSocketSend_eq]
      dsimp only
      split
      · exact h.awake
      · exact h.awake
    · show (netSocketSend p.socket i).unclaimed = []
      rw [netSocketSend_eq]
      dsimp only
      split
      · exact h.claimed
      · exact h.claimed
  | socketBlock =>
    obtain rfl := Option.some.inj hstep
    cases hqueue : p.socket.socketDispatchQueue with
    | nil =>
      have hsame : netSocketRunBlock p.socket = p.socket := by
        rw [netSocketRunBlock, hqueue]
      rw [hsame]
      exact h
    | cons i rest =>
      have hrun : netSocketRunBlock p.socket = { p.socket with
          socketDispatchQueue := rest
          pendingPackets := p.socket.pendingPackets ++ [i]
          isSending := true } := by
        rw [netSocketRunBlock, hqueue]
      rw [hrun]
      refine ⟨?_, fun _ => rfl, h.claimed⟩
      show p.socket.sent.map Prod.fst ++ (p.socket.pendingPackets ++ [i]) ++ rest = p.calls
      rw [← h.order, hqueue]
      simp
  | write =>
    obtain rfl := Option.some.inj hstep
    rcases Decidable.em (p.socket.isSending = true) with hsending | hsending
    · obtain ⟨hqueue, hpending, -, hsent⟩ := netSocketFlush_queues p.socket.pendingPackets
        { p.socket with pendingPackets := [] }
      have hwrite : netSocketWriteEvent p.socket = { netSocketFlush { p.socket with
          pendingPackets := [] } p.socket.pendingPackets with isSending := false } := by
        rw [netSocketWriteEvent, if_pos hsending]
      rw [hwrite]
      refine ⟨?_, fun hne => absurd hpending hne,
        (netSocketFlush_unclaimed _ _).trans h.claimed⟩
      show (netSocketFlush _ _).sent.map Prod.fst ++ (netSocketFlush _ _).pendingPackets ++
        (netSocketFlush _ _).socketDispatchQueue = p.calls
      rw [hqueue, hpending, hsent, ← h.order, List.append_nil, List.map_append, List.map_map]
      simp [Function.comp_def]
    · have hsame : netSocketWriteEvent p.socket = p.socket := by
        rw [netSocketWriteEvent, if_neg hsending]
      rw [hsame]
      exact h

/-! ## References -/

theorem pipelineStep_owned (h : p.socket.Owned p.refs) (hheld : HeldByCaller p action)
    (hstep : pipelineStep p action = some p') : p'.socket.Owned p'.refs := by
  have hmore : ∀ i j, Function.update p.refs i (p.refs i + 1) j =
      p.refs j + if j = i then 1 else 0 := by
    intro i j
    rcases Decidable.em (j = i) with rfl | hj
    · rw [Function.update_self, if_pos rfl]
    · rw [Function.update_of_ne hj, if_neg hj]
      rfl
  cases action with
  | alloc =>
    rw [pipelineStep] at hstep
    cases ha : netPacketAlloc p.socket with
    | none =>
      rw [ha] at hstep
      exact Option.some.inj hstep ▸ h
    | some alloc =>
      rw [ha] at hstep
      obtain rfl := Option.some.inj hstep
      exact (h.alloc ha (hmore alloc.1)).2.2.2
  | fill i contents =>
    obtain rfl := Option.some.inj hstep
    exact h.setPacket i contents
  | retain i =>
    obtain rfl := Option.some.inj hstep
    exact h.retain hheld (hmore i)
  | release i =>
    obtain rfl := Option.some.inj hstep
    refine h.release fun j => ?_
    dsimp only
    rcases Decidable.em (j = i) with rfl | hj
    · rw [Function.update_self, if_pos rfl]
      exact (Nat.sub_add_cancel hheld).symm
    · rw [Function.update_of_ne hj, if_neg hj]
      rfl
  | send i =>
    obtain rfl := Option.some.inj hstep
    exact h.send hheld
  | socketBlock =>
    obtain rfl := Option.some.inj hstep
    exact h.runBlock
  | write =>
    obtain rfl := Option.some.inj hstep
    exact h.writeEvent

end Steps

/-! ## Runs -/

/-- **The send pipeline**, in every run. -/
theorem send_pipeline {memory : Nat → Vector UInt8 kNetPacketMaxLen}
    {actions : List PipelineAction} {p : SendPipeline}
    (h : run pipelineStep (pipelineCreate memory) actions = some p) :
    p.socket.sent.map Prod.fst ++ p.socket.pendingPackets ++ p.socket.socketDispatchQueue =
      p.calls ∧
    (p.socket.pendingPackets ≠ [] → p.socket.isSending = true) ∧
    (Along pipelineStep HeldByCaller (pipelineCreate memory) actions → ∀ i,
      p.socket.poolPackets.retainCount i = p.references i ∧
      (i ∈ p.socket.socketDispatchQueue ∨ i ∈ p.socket.pendingPackets →
        i ∉ p.socket.poolPackets.freeList)) := by
  have horder : InOrder p := run_inv ⟨rfl, fun hne => absurd rfl hne, rfl⟩
    (fun _ _ _ => pipelineStep_inOrder) h
  refine ⟨horder.order, horder.awake, fun halong i => ?_⟩
  have howned : p.socket.Owned p.refs := run_along (P := fun p => p.socket.Owned p.refs)
    (netSocketCreate_owned memory) (fun _ _ _ => pipelineStep_owned) h halong
  refine ⟨?_, fun hmem hfree => ?_⟩
  · have hcount := howned.holds.count i
    rw [horder.claimed, List.count_nil] at hcount
    exact hcount
  have hzero := ((howned.holds.free i).1 hfree).2
  rcases hmem with hmem | hmem
  · have := List.count_pos_iff.2 hmem
    omega
  · have := List.count_pos_iff.2 hmem
    omega

/-- A packet of one byte is sent twice; the caller lets go of it before the second block runs. -/
def sentTwice : List PipelineAction :=
  [.alloc, .fill 0 ⟨.zeroed, 0, ⟨List.replicate 256 0, 1, 256⟩, .none⟩, .send 0, .socketBlock,
    .send 0, .release 0, .write]

theorem send_pipeline_twice : ∃ p, run pipelineStep
      (pipelineCreate fun _ => Vector.replicate _ 0) sentTwice = some p ∧
    p.socket.socketDispatchQueue = [0] ∧ p.socket.poolPackets.retainCount 0 = p.references 0 ∧
    0 ∉ p.socket.poolPackets.freeList := by
  have hrun : (run pipelineStep (pipelineCreate fun _ => Vector.replicate _ 0) sentTwice).map
      (fun p => p.socket.socketDispatchQueue) = some [0] := by
    decide +kernel
  have halong : Along pipelineStep HeldByCaller (pipelineCreate fun _ => Vector.replicate _ 0)
      sentTwice := by
    decide +kernel
  obtain ⟨p, h, hqueue⟩ := Option.map_eq_some_iff.1 hrun
  obtain ⟨hcount, hfree⟩ := (send_pipeline h).2.2 halong 0
  refine ⟨p, h, hqueue, hcount, hfree (.inl ?_)⟩
  rw [hqueue]
  exact List.mem_singleton_self 0

end UniversalNetwork
