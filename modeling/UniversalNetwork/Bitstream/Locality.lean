import UniversalNetwork.Bitstream.Codec

/-!
# Where a decoder looks

`Local r`: `r` only moves the offset, forwards and inside the bound, and its run on a stream is
determined by the bytes below the offset it stops at. The reads of `bitstream.c` are local
(`local_take`, `local_readBytes`, `local_skipBytes`) and so is every decoder made of them
(`Local.bind`).
-/

namespace UniversalNetwork

open Lib

/-- Two streams at one offset whose blocks agree on the first `n` bytes. -/
structure Alike (n : Nat) (stream stream' : Bitstream) : Prop where
  offset : stream'.offset = stream.offset
  bound : stream'.bound = stream.bound
  data : AgreeOn n stream.data stream'.data

def Bitstream.moveTo (stream : Bitstream) (k : Nat) : Bitstream := { stream with offset := k }

structure Local {α : Type} (r : BitM α) : Prop where
  moves : ∀ {stream stream' : Bitstream} {a : α}, stream.Sized → stream.offset ≤ stream.bound →
    r stream = some (a, stream') →
    ∃ k, stream' = stream.moveTo k ∧ stream.offset ≤ k ∧ k ≤ stream.bound
  alike : ∀ {n : Nat} {s t s' : Bitstream} {a : α}, s.Sized → s.offset ≤ s.bound → Alike n s t →
    r s = some (a, s') → s'.offset ≤ n → r t = some (a, t.moveTo s'.offset)

theorem Alike.moveTo {n : Nat} {s t : Bitstream} (h : Alike n s t) (k : Nat) :
    Alike n (s.moveTo k) (t.moveTo k) :=
  ⟨rfl, h.bound, h.data⟩

section Rules

variable {α β : Type}

theorem local_pure (a : α) : Local (pure a : BitM α) where
  moves := by
    intro stream stream' a' _ hoff h
    obtain ⟨rfl, rfl⟩ := Prod.mk.inj (Option.some.inj h)
    exact ⟨_, rfl, Nat.le_refl _, hoff⟩
  alike := by
    intro n s t s' a' _ _ hst h _
    obtain ⟨rfl, rfl⟩ := Prod.mk.inj (Option.some.inj h)
    rw [Bitstream.moveTo, ← hst.offset]
    rfl

theorem bind_eq_some {r : BitM α} {f : α → BitM β} {s s₂ : Bitstream} {b : β}
    (h : (r >>= f) s = some (b, s₂)) : ∃ a s₁, r s = some (a, s₁) ∧ f a s₁ = some (b, s₂) := by
  simp only [Bind.bind, StateT.bind] at h
  obtain ⟨⟨a, s₁⟩, h₁, h₂⟩ := Option.bind_eq_some_iff.1 h
  exact ⟨a, s₁, h₁, h₂⟩

theorem Local.bind {r : BitM α} {f : α → BitM β} (hr : Local r) (hf : ∀ a, Local (f a)) :
    Local (r >>= f) where
  moves := by
    intro stream stream₂ b hs hoff h
    obtain ⟨a, stream₁, h₁, h₂⟩ := bind_eq_some h
    obtain ⟨k₁, rfl, hle₁, hbound₁⟩ := hr.moves hs hoff h₁
    have hs₁ : (stream.moveTo k₁).Sized := ⟨hs.bound, hs.size⟩
    obtain ⟨k₂, rfl, hle₂, hbound₂⟩ := (hf a).moves hs₁ hbound₁ h₂
    exact ⟨k₂, rfl, Nat.le_trans hle₁ hle₂, hbound₂⟩
  alike := by
    intro n s t s₂ b hs hoff hst h hn
    obtain ⟨a, s₁, h₁, h₂⟩ := bind_eq_some h
    obtain ⟨k₁, rfl, -, hbound₁⟩ := hr.moves hs hoff h₁
    have hs₁ : (s.moveTo k₁).Sized := ⟨hs.bound, hs.size⟩
    obtain ⟨k₂, rfl, hle₂, -⟩ := (hf a).moves hs₁ hbound₁ h₂
    have ht₁ := hr.alike hs hoff hst h₁ (Nat.le_trans hle₂ hn)
    have ht₂ := (hf a).alike hs₁ hbound₁ (hst.moveTo k₁) h₂ hn
    exact (bind_run ht₁).trans ht₂

theorem Local.map {r : BitM α} (hr : Local r) (f : α → β) :
    Local (r >>= fun x => pure (f x)) :=
  hr.bind fun _ => local_pure _

theorem local_ite {p : Prop} [Decidable p] {r r' : BitM α} (hr : Local r) (hr' : Local r') :
    Local (if p then r else r') := by
  split
  · exact hr
  · exact hr'

theorem local_dite {p : Prop} [Decidable p] {r : p → BitM α} {r' : ¬ p → BitM α}
    (hr : ∀ h, Local (r h)) (hr' : ∀ h, Local (r' h)) : Local (if h : p then r h else r' h) := by
  split
  · exact hr _
  · exact hr' _

theorem local_access (x : Option α) : Local (BitM.access x) := by
  cases x with
  | none =>
    constructor
    · intro _ _ _ _ _ h
      cases h
    · intro _ _ _ _ _ _ _ _ h
      cases h
  | some a => exact local_pure a

end Rules

/-! ## The reads -/

theorem local_take : Local bitstreamTake where
  moves := by
    intro stream stream' a hs _ h
    obtain ⟨x, hx, he⟩ := Option.map_eq_some_iff.1 h
    obtain ⟨rfl, rfl⟩ := Prod.mk.inj he
    have hlt := (List.getElem?_eq_some_iff.1 hx).1
    exact ⟨_, rfl, Nat.le_succ _, by rw [hs.bound]; exact hlt⟩
  alike := by
    intro n s t s' a _ _ hst h hn
    obtain ⟨x, hx, he⟩ := Option.map_eq_some_iff.1 h
    obtain ⟨rfl, rfl⟩ := Prod.mk.inj he
    have hx' : t.data[t.offset]? = some x := by
      rw [hst.offset, ← hst.data.2 _ hn, hx]
    rw [bitstreamTake, hx', hst.offset]
    rfl

theorem readBytesLoop_alike {m n offset length : Nat} {data data' : List UInt8}
    (h : AgreeOn n data data') (hn : offset + length ≤ n) (dest : Vector UInt8 m) :
    ∀ b ≤ length, readBytesLoop data dest offset length b =
      readBytesLoop data' dest offset length b := by
  intro b
  induction b with
  | zero => exact fun _ => rfl
  | succ b ih =>
    intro hb
    simp only [readBytesLoop, ih (by omega), h.2 (offset + length - b - 1) (by omega)]

theorem Bitstream.Sized.le_of_bytesDoFit {stream : Bitstream} (h : stream.Sized) {bytes : Nat}
    (hoff : stream.offset ≤ stream.bound) (hfit : stream.bytesDoFit bytes) :
    stream.offset + bytes ≤ stream.bound := by
  unfold Bitstream.bytesDoFit at hfit
  have := h.size
  omega

theorem Alike.bytesDoFit {n bytes : Nat} {s t : Bitstream} (h : Alike n s t) :
    t.bytesDoFit bytes ↔ s.bytesDoFit bytes := by
  rw [Bitstream.bytesDoFit, Bitstream.bytesDoFit, h.offset, h.bound]

theorem local_readBytes {m : Nat} (dest : Vector UInt8 m) (length : Nat) :
    Local (bitstreamReadBytes dest length) where
  moves := by
    intro stream stream' a hs hoff h
    simp only [bitstreamReadBytes] at h
    split at h
    · rename_i hfit
      obtain ⟨d, -, he⟩ := Option.bind_eq_some_iff.1 h
      obtain ⟨-, rfl⟩ := Prod.mk.inj (Option.some.inj he)
      exact ⟨_, rfl, Nat.le_add_right _ _, hs.le_of_bytesDoFit hoff hfit⟩
    · obtain ⟨-, rfl⟩ := Prod.mk.inj (Option.some.inj h)
      exact ⟨_, rfl, Nat.le_refl _, hoff⟩
  alike := by
    intro n s t s' a hs hoff hst h hn
    simp only [bitstreamReadBytes] at h ⊢
    split at h
    · rename_i hfit
      obtain ⟨d, hd, he⟩ := Option.bind_eq_some_iff.1 h
      obtain ⟨rfl, rfl⟩ := Prod.mk.inj (Option.some.inj he)
      have hd' := readBytesLoop_alike hst.data hn dest length (Nat.le_refl _)
      rw [hd] at hd'
      rw [if_pos (hst.bytesDoFit.2 hfit), hst.offset, ← hd']
      rfl
    · rename_i hfit
      obtain ⟨rfl, rfl⟩ := Prod.mk.inj (Option.some.inj h)
      rw [if_neg (mt hst.bytesDoFit.1 hfit), Bitstream.moveTo, ← hst.offset]

theorem local_skipBytes (length : Nat) : Local (bitstreamSkipBytes length) where
  moves := by
    intro stream stream' a hs hoff h
    simp only [bitstreamSkipBytes] at h
    split at h
    · rename_i hfit
      obtain ⟨-, rfl⟩ := Prod.mk.inj (Option.some.inj h)
      have hle := hs.le_of_bytesDoFit hoff hfit
      have hmod : (stream.offset + length) % 2 ^ 64 = stream.offset + length :=
        Nat.mod_eq_of_lt (Nat.lt_of_le_of_lt hle hs.size)
      refine ⟨_, rfl, ?_, ?_⟩
      · rw [hmod, if_neg (by omega)]
        exact Nat.le_add_right _ _
      · rw [hmod, if_neg (by omega)]
        exact hle
    · obtain ⟨-, rfl⟩ := Prod.mk.inj (Option.some.inj h)
      exact ⟨_, rfl, Nat.le_refl _, hoff⟩
  alike := by
    intro n s t s' a _ _ hst h _
    simp only [bitstreamSkipBytes] at h ⊢
    split at h
    · rename_i hfit
      obtain ⟨rfl, rfl⟩ := Prod.mk.inj (Option.some.inj h)
      rw [if_pos (hst.bytesDoFit.2 hfit), hst.offset]
      simp only [Bitstream.moveTo, hst.bound]
    · rename_i hfit
      obtain ⟨rfl, rfl⟩ := Prod.mk.inj (Option.some.inj h)
      rw [if_neg (mt hst.bytesDoFit.1 hfit), Bitstream.moveTo, ← hst.offset]

theorem local_uint8 : Local bitstreamReadUint8 := local_take.map _

theorem local_uint16 : Local bitstreamReadUint16 := local_take.bind fun _ => local_take.map _

theorem local_uint16Endian : Local bitstreamReadUint16Endian :=
  local_take.bind fun _ => local_take.map _

theorem local_uint32 : Local bitstreamReadUint32 :=
  local_take.bind fun _ => local_take.bind fun _ => local_take.bind fun _ => local_take.map _

theorem local_uint32Endian : Local bitstreamReadUint32Endian :=
  local_take.bind fun _ => local_take.bind fun _ => local_take.bind fun _ => local_take.map _

theorem local_uint64 : Local bitstreamReadUint64 :=
  local_take.bind fun _ => local_take.bind fun _ => local_take.bind fun _ =>
    local_take.bind fun _ => local_take.bind fun _ => local_take.bind fun _ =>
    local_take.bind fun _ => local_take.map _

theorem local_str {m : Nat} (dest : Vector UInt8 m) (maxlength : Nat) :
    Local (bitstreamReadStr dest maxlength) :=
  local_uint8.bind fun _ => local_ite (local_pure _) ((local_readBytes _ _).bind fun _ =>
    (local_access _).map _)

end UniversalNetwork
