import UniversalNetwork.Bitstream.Bounds

/-!
# The bytes that a decoder sees

`word8`, `word16` and `word32` are the integers at an index of a stream, as the reads of
`bitstream.c` put them together.

* `uint8_eq_some`, `uint16_eq_some`, …: a read that returns gives the integer at its offset.
* `uint16_at`, `uint32_at`: it returns when the block has the bytes.
* `readBytes_eq_some`, `readStr_eq_some`: where a block and a string stop; `readBytes_isSome` and
  `readStr_isSome`: when they fault.
-/

namespace UniversalNetwork

open Lib

namespace Bitstream

/-- The byte at index `i`, as the decoders see it. -/
def word8 (stream : Bitstream) (i : Nat) : UInt32 := (stream.data[i]?.getD 0).toUInt32

def word16 (stream : Bitstream) (i : Nat) : UInt32 :=
  (stream.word8 i <<< 8) ||| stream.word8 (i + 1)

def word32 (stream : Bitstream) (i : Nat) : UInt32 :=
  (stream.word8 i <<< 24) ||| (stream.word8 (i + 1) <<< 16) ||| (stream.word8 (i + 2) <<< 8) |||
    stream.word8 (i + 3)

/-- `mBitstreamHasEnoughBytes` with the offset at `k`. -/
def enough (stream : Bitstream) (k length : Nat) : Prop := (stream.moveTo k).bytesDoFit length

instance (stream : Bitstream) (k length : Nat) : Decidable (stream.enough k length) :=
  inferInstanceAs (Decidable ((stream.moveTo k).bytesDoFit length))

variable (stream : Bitstream) (i k : Nat)

@[simp] theorem word8_moveTo : (stream.moveTo k).word8 i = stream.word8 i := rfl

@[simp] theorem word16_moveTo : (stream.moveTo k).word16 i = stream.word16 i := rfl

@[simp] theorem word32_moveTo : (stream.moveTo k).word32 i = stream.word32 i := rfl

@[simp] theorem enough_moveTo (l length : Nat) :
    (stream.moveTo k).enough l length ↔ stream.enough l length := Iff.rfl

theorem word8_lt : (stream.word8 i).toNat < 256 := by
  rw [word8, UInt8.toNat_toUInt32]
  exact UInt8.toNat_lt _

/-- A word in its place above another one. -/
theorem toNat_shiftLeft_or {x y : UInt32} {n : Nat} (hn : n < 32) (hx : x.toNat < 2 ^ (32 - n))
    (hy : y.toNat < 2 ^ n) : ((x <<< UInt32.ofNat n) ||| y).toNat = 2 ^ n * x.toNat + y.toNat := by
  have hlt : x.toNat <<< n < 2 ^ 32 := by
    rw [Nat.shiftLeft_eq]
    calc x.toNat * 2 ^ n < 2 ^ (32 - n) * 2 ^ n :=
          Nat.mul_lt_mul_of_pos_right hx (Nat.two_pow_pos n)
      _ = 2 ^ 32 := by rw [← Nat.pow_add, Nat.sub_add_cancel (Nat.le_of_lt hn)]
  rw [UInt32.toNat_or, UInt32.toNat_shiftLeft, UInt32.toNat_ofNat',
    Nat.mod_eq_of_lt (by omega : n < 2 ^ 32), Nat.mod_eq_of_lt hn, Nat.mod_eq_of_lt hlt,
    ← Nat.shiftLeft_add_eq_or_of_lt hy, Nat.shiftLeft_eq, Nat.mul_comm]

theorem word16_toNat : (stream.word16 i).toNat =
    256 * (stream.word8 i).toNat + (stream.word8 (i + 1)).toNat := by
  have hhigh := stream.word8_lt i
  exact toNat_shiftLeft_or (n := 8) (by decide) (by omega) (stream.word8_lt (i + 1))

theorem word16_lt : (stream.word16 i).toNat < 65536 := by
  have hhigh := stream.word8_lt i
  have hlow := stream.word8_lt (i + 1)
  rw [word16_toNat]
  omega

/-- A word is its two bytes. -/
theorem word16_eq_iff {c : UInt32} : stream.word16 i = c ↔
    256 * (stream.word8 i).toNat + (stream.word8 (i + 1)).toNat = c.toNat := by
  rw [← UInt32.toNat_inj, word16_toNat]

theorem word32_toNat : (stream.word32 i).toNat =
    65536 * (stream.word16 i).toNat + (stream.word16 (i + 2)).toNat := by
  have hhigh := stream.word16_lt i
  have hshift : (stream.word8 i <<< 8) <<< 16 = stream.word8 i <<< 24 :=
    (UInt32.shiftLeft_add (a := stream.word8 i) (b := 8) (c := 16) (by decide) (by decide)
      (by decide)).symm
  have hwords : stream.word32 i = (stream.word16 i <<< 16) ||| stream.word16 (i + 2) := by
    rw [word32, word16, word16, UInt32.shiftLeft_or, hshift, UInt32.or_assoc, UInt32.or_assoc]
  rw [hwords]
  exact toNat_shiftLeft_or (n := 16) (by decide) (by omega) (stream.word16_lt (i + 2))

end Bitstream

section Reads

variable {stream stream' : Bitstream}

theorem take_eq_some {x : UInt8} {k : Nat}
    (h : bitstreamTake (stream.moveTo k) = some (x, stream')) :
    x.toUInt32 = stream.word8 k ∧ stream' = stream.moveTo (k + 1) := by
  refine ⟨?_, fixed_take.moves_to h⟩
  obtain ⟨byte, hbyte, he⟩ := Option.map_eq_some_iff.1 h
  cases he
  rw [Bitstream.data_moveTo, Bitstream.offset_moveTo] at hbyte
  simp [Bitstream.word8, hbyte]

theorem uint8_eq_some {x : UInt32} {k : Nat}
    (h : bitstreamReadUint8 (stream.moveTo k) = some (x, stream')) :
    x = stream.word8 k ∧ stream' = stream.moveTo (k + 1) := by
  obtain ⟨b, s, htake, hpure⟩ := bind_eq_some h
  cases hpure
  exact take_eq_some htake

theorem uint16_eq_some {x : UInt32} {k : Nat}
    (h : bitstreamReadUint16 (stream.moveTo k) = some (x, stream')) :
    x = stream.word16 k ∧ stream' = stream.moveTo (k + 2) := by
  obtain ⟨b₀, s₁, h₀, h⟩ := bind_eq_some h
  obtain ⟨b₁, s₂, h₁, h⟩ := bind_eq_some h
  obtain ⟨hb₀, rfl⟩ := take_eq_some h₀
  obtain ⟨hb₁, rfl⟩ := take_eq_some h₁
  cases h
  exact ⟨by rw [Bitstream.word16, hb₀, hb₁], rfl⟩

theorem uint32_eq_some {x : UInt32} {k : Nat}
    (h : bitstreamReadUint32 (stream.moveTo k) = some (x, stream')) :
    x = stream.word32 k ∧ stream' = stream.moveTo (k + 4) := by
  obtain ⟨b₀, s₁, h₀, h⟩ := bind_eq_some h
  obtain ⟨b₁, s₂, h₁, h⟩ := bind_eq_some h
  obtain ⟨b₂, s₃, h₂, h⟩ := bind_eq_some h
  obtain ⟨b₃, s₄, h₃, h⟩ := bind_eq_some h
  obtain ⟨hb₀, rfl⟩ := take_eq_some h₀
  obtain ⟨hb₁, rfl⟩ := take_eq_some h₁
  obtain ⟨hb₂, rfl⟩ := take_eq_some h₂
  obtain ⟨hb₃, rfl⟩ := take_eq_some h₃
  cases h
  exact ⟨by rw [Bitstream.word32, hb₀, hb₁, hb₂, hb₃], rfl⟩

/-- A read of fixed width at an index where the block has the bytes. -/
theorem Fixed.read_at {α : Type} {w k : Nat} {r : BitM α} {a : α} (hr : Fixed w r)
    (hvalue : ∀ {x : α} {stream' : Bitstream}, r (stream.moveTo k) = some (x, stream') → x = a)
    (h : k + w ≤ stream.data.length) :
    r (stream.moveTo k) = some (a, stream.moveTo (k + w)) := by
  obtain ⟨⟨x, s⟩, hx⟩ := Option.isSome_iff_exists.1 ((hr.isSome (stream.moveTo k)).2 h)
  rw [hx, hvalue hx, hr.moves_to hx]

theorem uint16_at {k : Nat} (h : k + 2 ≤ stream.data.length) :
    bitstreamReadUint16 (stream.moveTo k) = some (stream.word16 k, stream.moveTo (k + 2)) :=
  fixed_uint16.read_at (fun hx => (uint16_eq_some hx).1) h

theorem uint32_at {k : Nat} (h : k + 4 ≤ stream.data.length) :
    bitstreamReadUint32 (stream.moveTo k) = some (stream.word32 k, stream.moveTo (k + 4)) :=
  fixed_uint32.read_at (fun hx => (uint32_eq_some hx).1) h

/-- A bound test that passes or not, then the bytes or nothing. -/
theorem readBytes_eq_some {m n k length : Nat} {dest dest' : Vector UInt8 m}
    (h : bitstreamReadBytes dest length (stream.moveTo k) = some ((n, dest'), stream')) :
    (stream.enough k length ∧ n = length ∧ stream' = stream.moveTo (k + length)) ∨
      (¬ stream.enough k length ∧ n = 0 ∧ stream' = stream.moveTo k) := by
  rw [bitstreamReadBytes] at h
  split at h
  · rename_i hfit
    obtain ⟨d, -, he⟩ := Option.bind_eq_some_iff.1 h
    cases he
    exact .inl ⟨hfit, rfl, rfl⟩
  · rename_i hfit
    cases h
    exact .inr ⟨hfit, rfl, rfl⟩

/-- The length byte, then the characters when the destination and the stream have room. -/
theorem readStr_eq_some {m k maxlength : Nat} {dest : Vector UInt8 m} {x : Nat × Vector UInt8 m}
    (h : bitstreamReadStr dest maxlength (stream.moveTo k) = some (x, stream')) :
    stream' = stream.moveTo (if (stream.word8 k).toNat + 1 > maxlength then k + 1
      else if stream.enough (k + 1) (stream.word8 k).toNat then k + 1 + (stream.word8 k).toNat
      else k + 1) := by
  obtain ⟨strlength, s₁, hstrlength, h⟩ := bind_eq_some h
  obtain ⟨rfl, rfl⟩ := uint8_eq_some hstrlength
  by_cases hmax : (stream.word8 k).toNat + 1 > maxlength
  · rw [if_pos hmax] at h ⊢
    cases h
    rfl
  · rw [if_neg hmax] at h ⊢
    obtain ⟨y, s₂, hread, h⟩ := bind_eq_some h
    obtain ⟨z, s₃, haccess, h⟩ := bind_eq_some h
    obtain ⟨w, -, hw⟩ := Option.map_eq_some_iff.1 haccess
    cases hw
    cases h
    rcases readBytes_eq_some hread with ⟨hfit, -, rfl⟩ | ⟨hfit, -, rfl⟩
    · rw [if_pos hfit]
    · rw [if_neg hfit]

theorem word8_of_hasAt {k : Nat} {b : UInt8} {bs : List UInt8}
    (h : HasAt stream.data k (b :: bs)) : stream.word8 k = b.toUInt32 := by
  rw [Bitstream.word8, h.head, Option.getD_some]

theorem word16_of_hasAt {k : Nat} {x : UInt32} (h : HasAt stream.data k (wire16 x)) :
    stream.word16 k = x.toUInt16.toUInt32 := by
  rw [Bitstream.word16, word8_of_hasAt h, word8_of_hasAt h.tail, word16]

theorem word32_of_hasAt {k : Nat} {x : UInt32} (h : HasAt stream.data k (wire32 x)) :
    stream.word32 k = x := by
  rw [Bitstream.word32, word8_of_hasAt h, word8_of_hasAt h.tail, word8_of_hasAt h.tail.tail,
    word8_of_hasAt h.tail.tail.tail, word32]

end Reads

/-! ## Faults -/

section Faults

variable {stream : Bitstream}

theorem uint8_isSome (stream : Bitstream) (k : Nat) (h : k + 1 ≤ stream.data.length) :
    (bitstreamReadUint8 (stream.moveTo k)).isSome := (fixed_uint8.isSome _).2 h

theorem readBytes_isSome {m k length : Nat} (dest : Vector UInt8 m)
    (hdata : k + length ≤ stream.data.length) :
    (bitstreamReadBytes dest length (stream.moveTo k)).isSome ↔
      (stream.enough k length → length ≤ m) := by
  rw [bitstreamReadBytes]
  by_cases hfit : (stream.moveTo k).bytesDoFit length
  · have hloop := readBytesLoop_isSome_iff dest hdata length (Nat.le_refl _)
    rw [if_pos hfit, show (stream.enough k length → length ≤ m) ↔ length ≤ m from
      forall_prop_of_true hfit, ← hloop]
    simp only [Bitstream.data_moveTo, Bitstream.offset_moveTo]
    cases readBytesLoop stream.data dest k length length with
    | none => rfl
    | some dest' => rfl
  · rw [if_neg hfit]
    exact iff_of_true rfl fun h => absurd h hfit

/-- The characters are written from index 0 on, the null after them. -/
theorem readStr_isSome {n k maxlength : Nat} (dest : Vector UInt8 n)
    (hdata : k + 1 + maxlength ≤ stream.data.length) :
    (bitstreamReadStr dest maxlength (stream.moveTo k)).isSome ↔
      ((stream.word8 k).toNat + 1 ≤ maxlength → (stream.word8 k).toNat < n) := by
  obtain ⟨⟨x, s⟩, hx⟩ := Option.isSome_iff_exists.1
    (uint8_isSome stream k (by omega))
  obtain ⟨rfl, rfl⟩ := uint8_eq_some hx
  rw [bitstreamReadStr, bind_run hx]
  by_cases hmax : (stream.word8 k).toNat + 1 > maxlength
  · rw [if_pos hmax]
    exact iff_of_true rfl fun h => by omega
  · rw [if_neg hmax, forall_prop_of_true (Nat.le_of_not_lt hmax), isSome_bind]
    have hchars : k + 1 + (stream.word8 k).toNat ≤ stream.data.length := by omega
    have hread := readBytes_isSome dest hchars
    constructor
    · rintro ⟨y, s, -, hy⟩
      obtain ⟨z, s', hz, -⟩ := isSome_bind.1 hy
      obtain ⟨dest', hdest', -⟩ := Option.map_eq_some_iff.1 hz
      exact (store_eq_some.1 hdest').1
    · intro hlt
      obtain ⟨⟨y, s⟩, hy⟩ := Option.isSome_iff_exists.1 (hread.2 fun _ => Nat.le_of_lt hlt)
      refine ⟨y, s, hy, ?_⟩
      simp only [store_of_lt _ hlt]
      rfl

end Faults

end UniversalNetwork
