import UniversalNetwork.Bitstream.Words

/-!
# The last byte that a decoder reads

`Decides π room r`: where `room` bytes are left, `r` reads at least one byte, and with other bytes
from the last one on that it read, it returns something that differs under `π`. A local decoder that
decides needs all bytes below the offset it stops at, and no others.

A sequence decides when its last part does (`Decides.bind`), whatever is made of the values that the
earlier parts read; `Decides.bind_or` is for a last part that may read nothing.
-/

namespace UniversalNetwork

open Lib

/-! ## Other bytes from an index on -/

def Bitstream.refill (stream : Bitstream) (n : Nat) (f : Nat → UInt8) : Bitstream :=
  { stream with data := Lib.refill n stream.data f }

section Refill

variable {n i : Nat} {s t : Bitstream}

theorem alike_refill (s : Bitstream) (n : Nat) (f : Nat → UInt8) : Alike n s (s.refill n f) :=
  ⟨rfl, rfl, agreeOn_refill n s.data f⟩

theorem word8_refill (f : Nat → UInt8) (hn : n ≤ i) (hi : i < s.data.length) :
    (s.refill n f).word8 i = (f i).toUInt32 := by
  rw [Bitstream.word8, Bitstream.refill, getElem?_refill f hn hi, Option.getD_some]

theorem Alike.mono {m : Nat} (h : Alike n s t) (hm : m ≤ n) : Alike m s t :=
  ⟨h.offset, h.bound, h.data.1, fun i hi => h.data.2 i (Nat.lt_of_lt_of_le hi hm)⟩

theorem Alike.word8 (h : Alike n s t) (hi : i < n) : t.word8 i = s.word8 i := by
  rw [Bitstream.word8, Bitstream.word8, h.data.2 i hi]

theorem Alike.word16 (h : Alike n s t) (hi : i + 1 < n) : t.word16 i = s.word16 i := by
  rw [Bitstream.word16, Bitstream.word16, h.word8 (by omega), h.word8 hi]

theorem Alike.word32 (h : Alike n s t) (hi : i + 3 < n) : t.word32 i = s.word32 i := by
  rw [Bitstream.word32, Bitstream.word32, h.word8 (by omega), h.word8 (by omega),
    h.word8 (by omega), h.word8 hi]

theorem Alike.sized (h : Alike n s t) (hs : s.Sized) : t.Sized :=
  ⟨by rw [h.bound, hs.bound, h.data.1], h.bound ▸ hs.size⟩

end Refill

/-! ## Deciding -/

structure Decides {α γ : Type} (π : α → γ) (room : Nat) (r : BitM α) : Prop where
  last : ∀ {s s' : Bitstream} {a : α}, s.Sized → s.offset + room ≤ s.bound → r s = some (a, s') →
    s.offset < s'.offset ∧ ∃ t, Alike (s'.offset - 1) s t ∧
      ∀ a' t', r t = some (a', t') → π a' ≠ π a

section Rules

variable {α β γ δ : Type} {π : α → γ} {ρ : β → δ} {v w : Nat}

theorem Decides.mono {r : BitM α} (h : Decides π w r) (hw : w ≤ v) : Decides π v r where
  last := fun hs hroom => h.last hs (by omega)

theorem Decides.map {r : BitM α} {g : α → β} (hr : Decides π v r)
    (hg : ∀ a a', ρ (g a') = ρ (g a) → π a' = π a) :
    Decides ρ v (r >>= fun a => pure (g a)) := by
  constructor
  intro s s' b hs hroom h
  obtain ⟨a, s₁, ha, hpure⟩ := bind_eq_some h
  cases hpure
  obtain ⟨hlt, t, hst, hdiffers⟩ := hr.last hs hroom ha
  refine ⟨hlt, t, hst, fun b' t' h' heq => ?_⟩
  obtain ⟨a', t₁, ha', hpure⟩ := bind_eq_some h'
  cases hpure
  exact hdiffers a' _ ha' (hg a a' heq)

/-- The same first part, then other bytes for the last one. -/
theorem Decides.continue {r : BitM α} {f : α → BitM β} {a : α} {s s₁ s' : Bitstream} {b : β}
    (hr : Local r) (hf : Decides ρ v (f a)) (hs : s.Sized) (hoff : s.offset ≤ s.bound)
    (hroom : s₁.offset + v ≤ s.bound) (ha : r s = some (a, s₁)) (hb : f a s₁ = some (b, s')) :
    s.offset < s'.offset ∧ ∃ t, Alike (s'.offset - 1) s t ∧
      ∀ b' t', (r >>= f) t = some (b', t') → ρ b' ≠ ρ b := by
  obtain ⟨k, rfl, hk, hbound⟩ := hr.moves hs hoff ha
  have hs₁ : (s.moveTo k).Sized := ⟨hs.bound, hs.size⟩
  obtain ⟨hlt, t, hst, hdiffers⟩ := hf.last hs₁ hroom hb
  rw [Bitstream.offset_moveTo] at hlt
  refine ⟨Nat.lt_of_le_of_lt hk hlt, t.moveTo s.offset, ⟨rfl, hst.bound, hst.data⟩, ?_⟩
  intro b' t' h'
  have hat : Alike (s'.offset - 1) s (t.moveTo s.offset) := ⟨rfl, hst.bound, hst.data⟩
  have hrun := hr.alike hs hoff hat ha (show k ≤ _ by omega)
  have ht : (t.moveTo s.offset).moveTo k = t := by
    rw [Bitstream.moveTo, Bitstream.moveTo, ← show t.offset = k from hst.offset]
  rw [Bitstream.offset_moveTo, ht] at hrun
  rw [bind_run hrun] at h'
  exact hdiffers b' t' h'

theorem Decides.bind {r : BitM α} {f : α → BitM β} (hr : Local r)
    (hf : ∀ a, Decides ρ 0 (f a)) : Decides ρ 0 (r >>= f) := by
  constructor
  intro s s' b hs hroom h
  obtain ⟨a, s₁, ha, hb⟩ := bind_eq_some h
  obtain ⟨k, rfl, -, hbound⟩ := hr.moves hs hroom ha
  exact (hf a).continue hr hs hroom hbound ha hb

/-- A first part of at most `w` bytes leaves room for the last one. -/
theorem Decides.bind_atMost {r : BitM α} {f : α → BitM β} (hr : Local r) (hw : AtMost w r)
    (hf : ∀ a, Decides ρ v (f a)) : Decides ρ (w + v) (r >>= f) := by
  constructor
  intro s s' b hs hroom h
  obtain ⟨a, s₁, ha, hb⟩ := bind_eq_some h
  obtain ⟨a', k, ha', hk⟩ := hw s (by rw [← hs.bound]; omega)
  obtain ⟨rfl, rfl⟩ := Prod.mk.inj (Option.some.inj (ha.symm.trans ha'))
  exact (hf a).continue hr hs (by omega) (by rw [Bitstream.offset_moveTo]; omega) ha hb

/-- Where the last part reads nothing, the first one decides. -/
theorem Decides.bind_or {r : BitM α} {f : α → BitM β} (hr : Local r) (hw : AtMost w r)
    (hdecides : Decides π w r)
    (hf : ∀ a, Decides ρ v (f a) ∨ ∃ b, f a = pure b ∧
      ∀ a' b' t t', π a' ≠ π a → f a' t = some (b', t') → ρ b' ≠ ρ b) :
    Decides ρ (w + v) (r >>= f) := by
  constructor
  intro s s' b hs hroom h
  obtain ⟨a, s₁, ha, hb⟩ := bind_eq_some h
  obtain ⟨a', k, ha', hk⟩ := hw s (by rw [← hs.bound]; omega)
  obtain ⟨rfl, rfl⟩ := Prod.mk.inj (Option.some.inj (ha.symm.trans ha'))
  rcases hf a with hf | ⟨b₀, hpure, hdiffers⟩
  · exact hf.continue hr hs (by omega) (by rw [Bitstream.offset_moveTo]; omega) ha hb
  · rw [hpure] at hb
    cases hb
    obtain ⟨hlt, t, hst, hother⟩ := hdecides.last hs (by omega) ha
    refine ⟨hlt, t, hst, fun b' t' h' => ?_⟩
    obtain ⟨a', t₁, ha', hb'⟩ := bind_eq_some h'
    exact hdiffers a' b' t₁ t' (hother a' t₁ ha') hb'

/-- A decoder with one result more often refused than another one decides like it. -/
theorem Decides.of_imp {r r' : BitM α} (hr : Decides π v r)
    (himp : ∀ {s s' a}, r' s = some (a, s') → r s = some (a, s')) : Decides π v r' := by
  constructor
  intro s s' a hs hroom h
  obtain ⟨hlt, t, hst, hdiffers⟩ := hr.last hs hroom (himp h)
  exact ⟨hlt, t, hst, fun a' t' h' => hdiffers a' t' (himp h')⟩

end Rules

/-! ## The reads -/

section Reads

theorem UInt8.succ_ne (b : UInt8) : b + 1 ≠ b := by
  intro h
  have hone : b + 1 = b + 0 := h.trans (UInt8.add_zero b).symm
  exact absurd (UInt8.add_right_inj b |>.1 hone) (by decide)

theorem decides_take : Decides id 0 bitstreamTake := by
  constructor
  intro s s' x hs _ h
  obtain ⟨_, hx, he⟩ := Option.map_eq_some_iff.1 h
  cases he
  have hlt := (List.getElem?_eq_some_iff.1 hx).1
  refine ⟨Nat.lt_succ_self _, s.refill s.offset fun _ => x + 1, alike_refill s _ _, ?_⟩
  intro a' t' h'
  obtain ⟨x', hx', he⟩ := Option.map_eq_some_iff.1 h'
  cases he
  rw [show (s.refill s.offset fun _ => x + 1).data = Lib.refill s.offset s.data fun _ => x + 1
    from rfl, show (s.refill s.offset fun _ => x + 1).offset = s.offset from rfl,
    getElem?_refill _ (Nat.le_refl _) hlt] at hx'
  cases hx'
  exact UInt8.succ_ne x

theorem byte_ext {x y : UInt8} (h : ∀ i < 8, x.toBitVec.getLsbD i = y.toBitVec.getLsbD i) :
    x = y :=
  UInt8.eq_of_toBitVec_eq (BitVec.eq_of_getLsbD_eq h)

theorem decides_uint8 : Decides id 0 bitstreamReadUint8 :=
  decides_take.map fun b b' h => by
    have h : b'.toUInt32 = b.toUInt32 := h
    simpa using congrArg UInt32.toUInt8 h

theorem decides_uint16 : Decides id 0 bitstreamReadUint16 := by
  refine .bind local_take fun b₀ => decides_take.map fun b b' h => byte_ext fun i hi => ?_
  have hbit := congrArg (fun x : UInt32 => x.toBitVec.getLsbD i) h
  simpa [hi, show i < 32 by omega] using hbit

theorem decides_uint32 : Decides id 0 bitstreamReadUint32 := by
  refine .bind local_take fun b₀ => .bind local_take fun b₁ => .bind local_take fun b₂ =>
    decides_take.map fun b b' h => byte_ext fun i hi => ?_
  have hbit := congrArg (fun x : UInt32 => x.toBitVec.getLsbD i) h
  simpa [hi, show i < 32 by omega, show i < 16 by omega, show i < 24 by omega] using hbit

theorem decides_uint32Endian : Decides id 0 bitstreamReadUint32Endian := by
  refine .bind local_take fun b₀ => .bind local_take fun b₁ => .bind local_take fun b₂ =>
    decides_take.map fun b b' h => byte_ext fun i hi => ?_
  have hbit := congrArg (fun x : UInt32 => x.toBitVec.getLsbD (i + 24)) h
  simpa [hi, show i + 24 < 32 by omega, show ¬ i + 24 < 16 by omega,
    show ¬ i + 24 < 8 by omega, show ¬ i + 24 < 24 by omega] using hbit

/-- The last byte of a block is stored first. -/
theorem readBytesLoop_first {m offset length n : Nat} {data : List UInt8}
    {dest dest' : Vector UInt8 m}
    (h : readBytesLoop data dest offset length (n + 1) = some dest') :
    dest'[0]? = data[offset + length - 1]? := by
  induction n generalizing dest' with
  | zero =>
    obtain ⟨byte, hbyte, hstore⟩ := Option.bind_eq_some_iff.1 h
    exact (store_get_self hstore).trans hbyte.symm
  | succ n ih =>
    obtain ⟨d, hd, hrest⟩ := Option.bind_eq_some_iff.1 h
    obtain ⟨byte, -, hstore⟩ := Option.bind_eq_some_iff.1 hrest
    exact (store_get_ne hstore (Nat.succ_ne_zero n).symm).trans (ih hd)

theorem readBytes_first {m n length k : Nat} {dest dest' : Vector UInt8 m}
    {stream stream' : Bitstream} (hfit : stream.enough k length) (hlength : 0 < length)
    (h : bitstreamReadBytes dest length (stream.moveTo k) = some ((n, dest'), stream')) :
    dest'[0]? = stream.data[k + length - 1]? := by
  rw [bitstreamReadBytes, if_pos (show (stream.moveTo k).bytesDoFit length from hfit)] at h
  obtain ⟨d, hd, he⟩ := Option.bind_eq_some_iff.1 h
  cases he
  obtain ⟨l, rfl⟩ := Nat.exists_eq_add_of_lt hlength
  rw [Nat.zero_add] at hd ⊢
  exact readBytesLoop_first hd

/-- A block that was read, with another last byte. -/
theorem readBytes_differs {m n length k : Nat} {dest dest' : Vector UInt8 m}
    {stream stream' : Bitstream} (hs : stream.Sized) (hk : k ≤ stream.bound)
    (hfit : stream.enough k length) (hlength : 0 < length)
    (h : bitstreamReadBytes dest length (stream.moveTo k) = some ((n, dest'), stream')) :
    ∃ t, Alike (k + length - 1) stream t ∧ ∀ n' d' t',
      bitstreamReadBytes dest length (t.moveTo k) = some ((n', d'), t') → d'[0]? ≠ dest'[0]? := by
  have hle := (show (stream.moveTo k).Sized from ⟨hs.bound, hs.size⟩).le_of_bytesDoFit hk hfit
  replace hle : k + length ≤ stream.data.length := hs.bound ▸ hle
  have hlt : k + length - 1 < stream.data.length := by omega
  obtain ⟨x, hx⟩ : ∃ x, stream.data[k + length - 1]? = some x :=
    ⟨_, List.getElem?_eq_getElem hlt⟩
  have hst := alike_refill stream (k + length - 1) fun _ => x + 1
  refine ⟨_, hst, fun n' d' t' h' => ?_⟩
  have hfit' : (stream.refill (k + length - 1) fun _ => x + 1).enough k length :=
    ((hst.moveTo k).bytesDoFit).2 hfit
  rw [readBytes_first hfit hlength h, readBytes_first hfit' hlength h', hx]
  intro heq
  rw [show (stream.refill (k + length - 1) fun _ => x + 1).data[k + length - 1]? = some (x + 1)
    from getElem?_refill _ (Nat.le_refl _) hlt] at heq
  exact UInt8.succ_ne x (Option.some.inj heq)

/-- A length and the block it announces. -/
theorem decides_block {m : Nat} (dest : Vector UInt8 m) {r : BitM UInt32} {β : Type}
    {g : UInt32 → Nat × Vector UInt8 m → β} (hr : Local r) (hdecides : Decides id 0 r)
    (hg : ∀ l x l' x', g l' x' = g l x → l' = l ∧ x'.2 = x.2) :
    Decides id 0 (r >>= fun length => bitstreamReadBytes dest length.toNat >>= fun x =>
      pure (g length x)) := by
  constructor
  intro s s' b hs hoff h
  obtain ⟨length, s₁, hlength, h⟩ := bind_eq_some h
  obtain ⟨⟨n, dest'⟩, s₂, hread, hpure⟩ := bind_eq_some h
  cases hpure
  obtain ⟨k, rfl, hk, hbound⟩ := hr.moves hs hoff hlength
  have hstops : s' = s.moveTo k → s.offset < s'.offset ∧ ∃ t, Alike (s'.offset - 1) s t ∧
      ∀ b' t', (r >>= fun length => bitstreamReadBytes dest length.toNat >>= fun x =>
        pure (g length x)) t = some (b', t') → b' ≠ g length (n, dest') := by
    rintro rfl
    obtain ⟨hlt, t, hst, hdiffers⟩ := hdecides.last hs hoff hlength
    refine ⟨hlt, t, hst, fun b' t' h' heq => ?_⟩
    obtain ⟨length', t₁, hlength', h'⟩ := bind_eq_some h'
    obtain ⟨x', t₂, -, hpure⟩ := bind_eq_some h'
    cases hpure
    exact hdiffers length' t₁ hlength' (hg _ _ _ _ heq).1
  rcases readBytes_eq_some hread with ⟨hfit, -, rfl⟩ | ⟨-, -, rfl⟩
  · rcases Nat.eq_zero_or_pos length.toNat with hzero | hpos
    · exact hstops (by rw [hzero]; rfl)
    · obtain ⟨t, hst, hdiffers⟩ := readBytes_differs hs hbound hfit hpos hread
      refine ⟨show s.offset < k + length.toNat by omega, t, hst, fun b' t' h' heq => ?_⟩
      have hrun := hr.alike hs hoff hst hlength (show k ≤ _ by omega)
      rw [bind_run hrun] at h'
      obtain ⟨⟨n', d'⟩, t₂, hread', hpure⟩ := bind_eq_some h'
      cases hpure
      have hdest : d' = dest' := (hg _ _ _ _ heq).2
      exact hdiffers n' d' _ hread' (by rw [hdest])
  · exact hstops rfl

end Reads

end UniversalNetwork
