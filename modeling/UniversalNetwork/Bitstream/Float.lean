import UniversalNetwork.Bitstream.Codec
import Mathlib.Data.Rat.Floor
import Mathlib.Tactic.Linarith
import Mathlib.Tactic.NormNum
import Mathlib.Algebra.Order.Floor.Ring

/-!
# Fixed-point floats

`bitstream_write_float32` puts 15 bits of the whole part, the sign and 16 bits of the fraction into
a word. The operations on `float` are read as rational arithmetic, a cast to an integer as
truncation. The fraction is scaled by 65537, which for fractions close to 1 is past 16 bits.

* `float32_error`: what is read back is off by the error of the scaled fraction alone.
* `float32_error_iff`: at most 1/65536, unless the scaled fraction reaches 65536 and is masked to 0.
-/

namespace UniversalNetwork

open Lib

def float32Word (src : ℚ) : UInt32 :=
  let sign : UInt32 := if src < 0 then 1 else 0
  let src := if src < 0 then -src else src
  let p := ((UInt32.ofNat ⌊src⌋₊ &&& 0x7fff) <<< 16) ||| (sign <<< 31)
  p ||| (UInt32.ofNat ⌊(src - ⌊src⌋₊) * 65537⌋₊ &&& 0xffff)

def float32Value (p : UInt32) : ℚ :=
  let f : ℚ := ((p >>> 16) &&& 0x7fff).toNat
  let f := f + ((p &&& 0xffff).toNat : ℚ) / 65536
  if (p >>> 31) &&& 0x1 = 0x1 then -f else f

/-- `bitstream_write_float32`, with the conversion. -/
def bitstreamWriteRational (src : ℚ) : BitM Unit := bitstreamWriteFloat32 (float32Word src)

/-- `bitstream_read_float32`, with the conversion. -/
def bitstreamReadRational : BitM ℚ := do
  let p ← bitstreamReadFloat32
  return float32Value p

/-! ## The three fields of the word -/

theorem getLsbD_mask (n i : Nat) (hn : n < 32) :
    (BitVec.ofNat 32 (2 ^ n - 1)).getLsbD i = decide (i < n) := by
  rw [BitVec.getLsbD_ofNat, Nat.testBit_two_pow_sub_one]
  by_cases h : i < n
  · simp [h]
    omega
  · simp [h]

section Fields

variable (whole sign fraction : UInt32)

def packFixed : UInt32 :=
  ((whole &&& 0x7fff) <<< 16) ||| (sign <<< 31) ||| (fraction &&& 0xffff)

theorem getLsbD_packFixed (i : Nat) (hi : i < 32) :
    (packFixed whole sign fraction).toBitVec.getLsbD i =
      ((decide (16 ≤ i ∧ i < 31) && whole.toBitVec.getLsbD (i - 16)) ||
        (decide (i = 31) && sign.toBitVec.getLsbD 0) ||
        (decide (i < 16) && fraction.toBitVec.getLsbD i)) := by
  have h15 : ∀ i, (0x7fff#32).getLsbD i = decide (i < 15) := fun i => getLsbD_mask 15 i (by decide)
  have h16 : ∀ i, (0xffff#32).getLsbD i = decide (i < 16) := fun i => getLsbD_mask 16 i (by decide)
  have hword : (packFixed whole sign fraction).toBitVec =
      ((whole.toBitVec &&& 0x7fff#32) <<< 16) ||| (sign.toBitVec <<< 31) |||
        (fraction.toBitVec &&& 0xffff#32) := rfl
  rw [hword]
  simp only [BitVec.getLsbD_or, BitVec.getLsbD_and, BitVec.getLsbD_shiftLeft, h15, h16, hi]
  rcases Nat.lt_trichotomy i 31 with h | rfl | h
  · rcases Nat.lt_or_ge i 16 with h' | h'
    · simp [h, h', Nat.ne_of_lt h, Nat.not_le.2 h']
    · simp [h, h', Nat.ne_of_lt h, Nat.not_lt.2 h']
      omega
  · simp
  · omega

theorem packFixed_whole :
    (packFixed whole sign fraction >>> 16) &&& 0x7fff = whole &&& 0x7fff := by
  have h15 : ∀ i, (0x7fff#32).getLsbD i = decide (i < 15) := fun i => getLsbD_mask 15 i (by decide)
  rw [← UInt32.toBitVec_inj]
  refine BitVec.eq_of_getLsbD_eq fun i hi => ?_
  have hword : ((packFixed whole sign fraction >>> 16) &&& 0x7fff).toBitVec.getLsbD i =
      ((packFixed whole sign fraction).toBitVec.getLsbD (16 + i) && decide (i < 15)) := by
    simp [h15]
  have hwhole : (whole &&& 0x7fff).toBitVec.getLsbD i =
      (whole.toBitVec.getLsbD i && decide (i < 15)) := by simp [h15]
  rw [hword, hwhole]
  by_cases h : i < 15
  · rw [getLsbD_packFixed _ _ _ _ (by omega)]
    have h₁ : 16 + i < 31 := by omega
    have h₂ : 16 + i ≠ 31 := by omega
    simp [h, h₁, h₂]
  · simp [h]

theorem packFixed_fraction :
    packFixed whole sign fraction &&& 0xffff = fraction &&& 0xffff := by
  have h16 : ∀ i, (0xffff#32).getLsbD i = decide (i < 16) := fun i => getLsbD_mask 16 i (by decide)
  rw [← UInt32.toBitVec_inj]
  refine BitVec.eq_of_getLsbD_eq fun i hi => ?_
  have hword : ∀ x : UInt32, (x &&& 0xffff).toBitVec.getLsbD i =
      (x.toBitVec.getLsbD i && decide (i < 16)) := by simp [h16]
  rw [hword, hword, getLsbD_packFixed _ _ _ _ hi]
  by_cases h : i < 16
  · have h₁ : i ≠ 31 := by omega
    simp [h, h₁, Nat.not_le.2 h]
  · simp [h]

theorem packFixed_sign : (packFixed whole sign fraction >>> 31) &&& 0x1 = sign &&& 0x1 := by
  have h1 : ∀ i, (0x1#32).getLsbD i = decide (i < 1) := fun i => getLsbD_mask 1 i (by decide)
  rw [← UInt32.toBitVec_inj]
  refine BitVec.eq_of_getLsbD_eq fun i hi => ?_
  have hword : ((packFixed whole sign fraction >>> 31) &&& 0x1).toBitVec.getLsbD i =
      ((packFixed whole sign fraction).toBitVec.getLsbD (31 + i) && decide (i < 1)) := by
    simp [h1]
  have hsign : (sign &&& 0x1).toBitVec.getLsbD i =
      (sign.toBitVec.getLsbD i && decide (i < 1)) := by simp [h1]
  rw [hword, hsign]
  by_cases h : i < 1
  · obtain rfl : i = 0 := by omega
    rw [getLsbD_packFixed _ _ _ _ (by omega)]
    simp
  · simp [h]

end Fields

/-! ## Error -/

/-- The scaled fraction, with what the mask leaves of it. -/
def scaledFraction (fraction : ℚ) : Nat := ⌊fraction * 65537⌋₊ % 65536

theorem toNat_ofNat_mask16 (n : Nat) : (UInt32.ofNat n &&& 0xffff).toNat = n % 65536 := by
  rw [UInt32.toNat_and, show (0xffff : UInt32).toNat = 2 ^ 16 - 1 from rfl,
    Nat.and_two_pow_sub_one_eq_mod, UInt32.toNat_ofNat']
  omega

theorem toNat_ofNat_mask15 {n : Nat} (h : n < 32768) : (UInt32.ofNat n &&& 0x7fff).toNat = n := by
  rw [UInt32.toNat_and, show (0x7fff : UInt32).toNat = 2 ^ 15 - 1 from rfl,
    Nat.and_two_pow_sub_one_eq_mod, UInt32.toNat_ofNat']
  omega

/-- The value of the word of `x`, with the sign of `x`. -/
theorem float32Value_word (x : ℚ) (hx : |x| < 32768) :
    float32Value (float32Word x) =
      (if x < 0 then -1 else 1) * (⌊|x|⌋₊ + (scaledFraction (|x| - ⌊|x|⌋₊) : ℚ) / 65536) := by
  have habs : (if x < 0 then -x else x) = |x| := by
    split
    · rename_i h
      exact (abs_of_neg h).symm
    · rename_i h
      exact (abs_of_nonneg (not_lt.1 h)).symm
  have hfloor : ⌊|x|⌋₊ < 32768 := by
    rw [Nat.floor_lt (abs_nonneg x)]
    exact_mod_cast hx
  have hword : float32Word x = packFixed (UInt32.ofNat ⌊|x|⌋₊) (if x < 0 then 1 else 0)
      (UInt32.ofNat ⌊(|x| - ⌊|x|⌋₊) * 65537⌋₊) := by
    simp only [float32Word, habs, packFixed]
  rw [float32Value, hword, packFixed_whole, packFixed_fraction, packFixed_sign,
    toNat_ofNat_mask15 hfloor, toNat_ofNat_mask16]
  by_cases h : x < 0
  · simp [h, scaledFraction]
  · simp [h, scaledFraction]

theorem float32_error (x : ℚ) (hx : |x| < 32768) :
    |float32Value (float32Word x) - x| =
      |(scaledFraction (|x| - ⌊|x|⌋₊) : ℚ) / 65536 - (|x| - ⌊|x|⌋₊)| := by
  rw [float32Value_word x hx]
  by_cases h : x < 0
  · rw [if_pos h, abs_of_neg h, ← abs_neg]
    congr 1
    ring
  · rw [if_neg h, abs_of_nonneg (not_lt.1 h)]
    congr 1
    ring

theorem scaledFraction_error {f : ℚ} (h0 : 0 ≤ f) (h1 : f < 65536 / 65537) :
    |(scaledFraction f : ℚ) / 65536 - f| ≤ 1 / 65536 := by
  have hlt : ⌊f * 65537⌋₊ < 65536 := by
    rw [Nat.floor_lt (by positivity)]
    norm_num
    linarith
  have hle : (⌊f * 65537⌋₊ : ℚ) ≤ f * 65537 := Nat.floor_le (by positivity)
  have hgt : f * 65537 < (⌊f * 65537⌋₊ : ℚ) + 1 := Nat.lt_floor_add_one _
  rw [scaledFraction, Nat.mod_eq_of_lt hlt, abs_le]
  constructor <;> linarith

/-- The fraction is lost. -/
theorem scaledFraction_wraps {f : ℚ} (h0 : 65536 / 65537 ≤ f) (h1 : f < 1) :
    scaledFraction f = 0 := by
  have hfloor : ⌊f * 65537⌋₊ = 65536 := by
    rw [Nat.floor_eq_iff (by linarith)]
    norm_num
    constructor <;> linarith
  rw [scaledFraction, hfloor]

theorem scaledFraction_error_iff {f : ℚ} (h0 : 0 ≤ f) (h1 : f < 1) :
    |(scaledFraction f : ℚ) / 65536 - f| ≤ 1 / 65536 ↔ f < 65536 / 65537 := by
  refine ⟨fun h => ?_, scaledFraction_error h0⟩
  by_contra hge
  rw [scaledFraction_wraps (not_lt.1 hge) h1, Nat.cast_zero, zero_div, zero_sub, abs_neg,
    abs_of_nonneg h0] at h
  linarith

/-- What is written at an offset, read back from it. -/
theorem float32_codec (x : ℚ) {stream : Bitstream} (hsized : stream.Sized)
    (hfit : stream.offset + 4 ≤ stream.bound) :
    ∃ stream', bitstreamWriteRational x stream = some ((), stream') ∧
      bitstreamReadRational { stream' with offset := stream.offset } =
        some (float32Value (float32Word x), stream') := by
  have hroom : stream.offset + (wire32 (float32Word x)).length ≤ stream.bound := hfit
  have hread := (reads_uint32 (float32Word x)).map float32Value
    { stream.emit (wire32 (float32Word x)) with offset := stream.offset }
    ⟨(hsized.emit hroom).bound, hsized.size⟩ (by simp only [Bitstream.emit]; omega)
    (hasAt_overwrite (hsized.bound ▸ hroom))
  exact ⟨_, writes_uint32 (float32Word x) stream hsized hfit, hread⟩

/-- **The codec is within 1/65536 exactly when the fraction is below 65536/65537.** -/
theorem float32_error_iff (x : ℚ) (hx : |x| < 32768) {stream : Bitstream} (hsized : stream.Sized)
    (hfit : stream.offset + 4 ≤ stream.bound) :
    ∃ y stream', bitstreamWriteRational x stream = some ((), stream') ∧
      bitstreamReadRational { stream' with offset := stream.offset } = some (y, stream') ∧
      (|y - x| ≤ 1 / 65536 ↔ |x| - ⌊|x|⌋₊ < 65536 / 65537) := by
  obtain ⟨stream', hwrite, hread⟩ := float32_codec x hsized hfit
  refine ⟨_, stream', hwrite, hread, ?_⟩
  rw [float32_error x hx]
  have hfrac := Nat.lt_floor_add_one |x|
  exact scaledFraction_error_iff (sub_nonneg.2 (Nat.floor_le (abs_nonneg x))) (by linarith)

theorem float32_error_negative :
    ∃ y stream', bitstreamWriteRational (-157 / 50) (bitstreamCreate [0, 0, 0, 0] 4) =
        some ((), stream') ∧
      bitstreamReadRational { stream' with offset := 0 } = some (y, stream') ∧
      (|y - -157 / 50| ≤ 1 / 65536 ↔
        |(-157 / 50 : ℚ)| - ⌊|(-157 / 50 : ℚ)|⌋₊ < 65536 / 65537) :=
  have hsized : (bitstreamCreate [0, 0, 0, 0] 4).Sized := ⟨rfl, by decide⟩
  float32_error_iff (-157 / 50) (by norm_num) hsized (by decide)

/-- 0.99999 is read back as 0. -/
theorem float32_fraction_lost :
    ∃ stream', bitstreamWriteRational (99999 / 100000) (bitstreamCreate [0, 0, 0, 0] 4) =
        some ((), stream') ∧
      bitstreamReadRational { stream' with offset := 0 } = some (0, stream') ∧
      ¬ |(0 : ℚ) - 99999 / 100000| ≤ 1 / 65536 := by
  have hsized : (bitstreamCreate [0, 0, 0, 0] 4).Sized := ⟨rfl, by decide⟩
  obtain ⟨stream', hwrite, hread⟩ := float32_codec (99999 / 100000) hsized (by decide)
  have hzero : float32Value (float32Word (99999 / 100000)) = 0 := by
    have hfloor : ⌊|(99999 / 100000 : ℚ)|⌋₊ = 0 := by
      rw [Nat.floor_eq_zero]
      norm_num
    rw [float32Value_word _ (by norm_num), hfloor, scaledFraction_wraps (by norm_num) (by norm_num)]
    simp
  exact ⟨stream', hwrite, hzero ▸ hread, by norm_num⟩

end UniversalNetwork
