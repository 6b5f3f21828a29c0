import UniversalNetwork.Bitstream.Codec
import UniversalNetwork.StunProtocol
import Mathlib.Data.List.Basic
import Mathlib.Tactic.IntervalCases

/-!
# The codec of STUN headers

The 12 bits of the message type and the two of the class are interleaved in the first word of a
header, below two zero bits.

* `msgType_headerType`, `msgClass_headerType`, `headerType_unpacked`: packing and unpacking the word
  undo each other.
* `writes_stunHeader`, `reads_stunHeader`: the 20 bytes of a header.
* `stunHeader_bijection`: the packer and the unpacker are inverse to each other on headers.
-/

namespace UniversalNetwork

open Lib

/-! ## Type and class in one word -/

/-- The word that `stunProtocolPackHeader` writes first. -/
def stunHeaderType (msgType : UInt32) (msgClass : StunMsgClass) : UInt32 :=
  ((msgType &&& (0x0f80 : UInt32)) <<< 2) ||| ((msgType &&& (0x0070 : UInt32)) <<< 1) |||
    (msgType &&& (0x000f : UInt32)) ||| ((msgClass.code &&& (0x02 : UInt32)) <<< 7) |||
    ((msgClass.code &&& (0x01 : UInt32)) <<< 4)

theorem getElem_of_lt {x : UInt32} {n i : Nat} (h : x.toNat < 2 ^ n) (hi : i < 32) (hn : n ≤ i) :
    x.toBitVec[i] = false := by
  rw [← BitVec.getLsbD_eq_getElem]
  exact Nat.testBit_lt_two_pow (Nat.lt_of_lt_of_le h (Nat.pow_le_pow_right (by decide) hn))

/-- The two bits that the class tests look at. -/
theorem and_classMask (type : UInt32) : type &&& (0x0110 : UInt32) =
    (if type.toBitVec[8] then (0x0100 : UInt32) else 0) |||
      (if type.toBitVec[4] then (0x0010 : UInt32) else 0) := by
  have hmask : (0x0110 : UInt32).toBitVec = BitVec.twoPow 32 8 ||| BitVec.twoPow 32 4 := by decide
  rw [← UInt32.toBitVec_inj, UInt32.toBitVec_and, hmask, BitVec.and_or_distrib_left,
    BitVec.and_twoPow, BitVec.and_twoPow, BitVec.getLsbD_eq_getElem (by decide),
    BitVec.getLsbD_eq_getElem (by decide)]
  cases type.toBitVec[8] <;> cases type.toBitVec[4] <;> rfl

theorem stunMsgClass_bits (type : UInt32) :
    (stunMsgClass type).code.toBitVec[1] = type.toBitVec[8] ∧
      (stunMsgClass type).code.toBitVec[0] = type.toBitVec[4] := by
  rw [stunMsgClass, and_classMask]
  cases type.toBitVec[8] <;> cases type.toBitVec[4] <;> decide

theorem msgClass_of_bits {c c' : StunMsgClass} (h1 : c.code.toBitVec[1] = c'.code.toBitVec[1])
    (h0 : c.code.toBitVec[0] = c'.code.toBitVec[0]) : c = c' := by
  cases c <;> cases c' <;> first | rfl | exact absurd h1 (by decide) | exact absurd h0 (by decide)

theorem msgClass_headerType (msgType : UInt32) (msgClass : StunMsgClass) :
    stunMsgClass (stunHeaderType msgType msgClass) = msgClass := by
  obtain ⟨h1, h0⟩ := stunMsgClass_bits (stunHeaderType msgType msgClass)
  apply msgClass_of_bits
  · rw [h1]
    simp [stunHeaderType]
  · rw [h0]
    simp [stunHeaderType]

theorem msgType_headerType {msgType : UInt32} (h : msgType.toNat < 2 ^ 12)
    (msgClass : StunMsgClass) : stunMsgType (stunHeaderType msgType msgClass) = msgType := by
  have hzero : ∀ i (hi : i < 32), 12 ≤ i → msgType.toBitVec[i] = false :=
    fun i hi hn => getElem_of_lt h hi hn
  rw [← UInt32.toBitVec_inj]
  refine BitVec.eq_of_getLsbD_eq fun i hi => ?_
  interval_cases i <;> simp [stunMsgType, stunHeaderType, hzero]

/-- Of a word with two leading zero bits nothing is lost. -/
theorem headerType_unpacked {type : UInt32} (h : type.toNat < 2 ^ 14) :
    stunHeaderType (stunMsgType type) (stunMsgClass type) = type := by
  have hzero : ∀ i (hi : i < 32), 14 ≤ i → type.toBitVec[i] = false :=
    fun i hi hn => getElem_of_lt h hi hn
  obtain ⟨h1, h0⟩ := stunMsgClass_bits type
  rw [← UInt32.toBitVec_inj]
  refine BitVec.eq_of_getLsbD_eq fun i hi => ?_
  interval_cases i <;> simp [stunMsgType, stunHeaderType, hzero, h1, h0]

theorem headerType_lt (msgType : UInt32) (msgClass : StunMsgClass) :
    (stunHeaderType msgType msgClass).toNat < 2 ^ 14 := by
  have hbits : ∀ i, 14 ≤ i → (stunHeaderType msgType msgClass).toNat.testBit i = false := by
    intro i hi
    change (stunHeaderType msgType msgClass).toBitVec.getLsbD i = false
    rcases Nat.lt_or_ge i 32 with h | h
    · interval_cases i <;> simp [stunHeaderType]
    · exact BitVec.getLsbD_of_ge _ _ h
  exact Nat.lt_pow_two_of_testBit _ hbits

/-! ## The bytes of a header -/

def wireStunHeader (type length : UInt32) (transactionId : StunTransactionId) : List UInt8 :=
  wire16 type ++ (wire16 length ++ (wire32 kStunProtocolMagicCookie ++
    transactionId.id.toList.reverse))

theorem length_wireStunHeader (type length : UInt32) (transactionId : StunTransactionId) :
    (wireStunHeader type length transactionId).length = 20 := by
  have hid : transactionId.id.toList.length = 12 := transactionId.id.length_toList
  simp [wireStunHeader, wire16, wire32, hid]

theorem writes_stunHeader (msgType : UInt32) (msgClass : StunMsgClass)
    (transactionId : StunTransactionId) (length : UInt32) :
    Writes (stunProtocolPackHeader msgType msgClass transactionId length)
      (wireStunHeader (stunHeaderType msgType msgClass) length transactionId) () := by
  have hid : Writes (bitstreamWriteBytes transactionId.id.toList kStunTransactionIdLen)
      transactionId.id.toList.reverse kStunTransactionIdLen := by
    have h := writes_writeBytes (Nat.le_of_eq transactionId.id.length_toList.symm)
    rwa [List.take_of_length_le (Nat.le_of_eq transactionId.id.length_toList)] at h
  exact (writes_uint16 _).bind ((writes_uint16 _).bind ((writes_uint32 _).bind
    (hid.map fun _ => ())))

theorem reads_uint16_of_lt {x : UInt32} (h : x.toNat < 2 ^ 16) :
    Reads bitstreamReadUint16 (wire16 x) x := by
  have hx : x.toUInt16.toUInt32 = x := by
    apply UInt32.toNat_inj.1
    simp only [UInt16.toNat_toUInt32, UInt32.toNat_toUInt16]
    exact Nat.mod_eq_of_lt h
  have hread := reads_uint16 x
  rwa [hx] at hread

theorem reads_stunHeader (dest transactionId : StunTransactionId) {type length : UInt32}
    (htype : type.toNat < 2 ^ 16) (hlength : length.toNat < 2 ^ 16) :
    Reads (stunProtocolUnpackHeader dest) (wireStunHeader type length transactionId)
      (.valid, stunMsgType type, stunMsgClass type, transactionId, length) := by
  have hid : Reads (bitstreamReadBytes dest.id kStunTransactionIdLen)
      transactionId.id.toList.reverse (kStunTransactionIdLen, transactionId.id) := by
    have h := reads_readBytes dest.id transactionId.id.toList
      (Nat.le_of_eq transactionId.id.length_toList)
    rwa [transactionId.id.length_toList, patch_toList] at h
  refine (reads_uint16_of_lt htype).bind ((reads_uint16_of_lt hlength).bind
    ((reads_uint32 _).bind ?_))
  rw [if_neg (not_not_intro rfl)]
  exact hid.map fun x => (StunResult.valid, stunMsgType type, stunMsgClass type,
    StunTransactionId.mk x.2, length)

/-! ## Bijection -/

theorem exists_wire16 {bs : List UInt8} (h : bs.length = 2) :
    ∃ x : UInt32, x.toNat < 2 ^ 16 ∧ wire16 x = bs ∧
      ∀ b ∈ bs.head?, x.toNat < (b.toNat + 1) * 256 := by
  obtain ⟨b₀, b₁, rfl⟩ := List.length_eq_two.1 h
  have h₀ := b₀.toNat_lt
  have h₁ := b₁.toNat_lt
  have hx : (UInt32.ofNat (b₀.toNat * 256 + b₁.toNat)).toNat = b₀.toNat * 256 + b₁.toNat := by
    rw [UInt32.toNat_ofNat', Nat.mod_eq_of_lt (by omega)]
  refine ⟨UInt32.ofNat (b₀.toNat * 256 + b₁.toNat), by omega, ?_, ?_⟩
  · have hhigh : (UInt32.ofNat (b₀.toNat * 256 + b₁.toNat) >>> 8).toUInt8 = b₀ := by
      apply UInt8.toNat_inj.1
      rw [UInt32.toNat_toUInt8, UInt32.toNat_shiftRight, hx,
        show (8 : UInt32).toNat % 32 = 8 by decide, Nat.shiftRight_eq_div_pow]
      omega
    have hlow : (UInt32.ofNat (b₀.toNat * 256 + b₁.toNat)).toUInt8 = b₁ := by
      apply UInt8.toNat_inj.1
      rw [UInt32.toNat_toUInt8, hx]
      omega
    rw [wire16, hhigh, hlow]
  · intro b hb
    cases hb
    omega

/-- A header in its 20 bytes: two leading zero bits and the cookie. -/
structure StunHeaderBytes (bytes : List UInt8) : Prop where
  length : bytes.length = 20
  zeroes : ∀ b ∈ bytes.head?, b.toNat < 2 ^ 6
  cookie : (bytes.drop 4).take 4 = wire32 kStunProtocolMagicCookie

theorem exists_wireStunHeader {bytes : List UInt8} (h : StunHeaderBytes bytes) :
    ∃ type length transactionId, type.toNat < 2 ^ 14 ∧ length.toNat < 2 ^ 16 ∧
      bytes = wireStunHeader type length transactionId := by
  have hlen := h.length
  obtain ⟨type, -, htype, hhead⟩ := exists_wire16 (by
    rw [List.length_take]
    omega : (bytes.take 2).length = 2)
  obtain ⟨length, hlength, hwire, -⟩ := exists_wire16 (by
    rw [List.length_take, List.length_drop]
    omega : ((bytes.drop 2).take 2).length = 2)
  have hid : (bytes.drop 8).reverse.length = kStunTransactionIdLen := by
    rw [List.length_reverse, List.length_drop, hlen]
    rfl
  refine ⟨type, length, ⟨⟨⟨(bytes.drop 8).reverse⟩, hid⟩⟩, ?_, hlength, ?_⟩
  · obtain ⟨b, bs, rfl⟩ : ∃ b bs, bytes = b :: bs :=
      List.exists_cons_of_length_pos (by omega)
    have hb := h.zeroes b rfl
    have hlt := hhead b rfl
    omega
  · have hdrop : ∀ m n, (bytes.drop m).take n ++ bytes.drop (m + n) = bytes.drop m := by
      intro m n
      rw [← List.drop_drop, List.take_append_drop]
    rw [wireStunHeader, htype, hwire, ← h.cookie]
    simp only [Vector.toList_mk, List.reverse_reverse]
    rw [hdrop 4 4, hdrop 2 2, List.take_append_drop]

theorem wireStunHeader_bytes {type length : UInt32} {transactionId : StunTransactionId}
    (htype : type.toNat < 2 ^ 14) :
    StunHeaderBytes (wireStunHeader type length transactionId) where
  length := length_wireStunHeader type length transactionId
  zeroes := by
    intro b hb
    cases hb
    rw [UInt32.toNat_toUInt8, UInt32.toNat_shiftRight,
      show (8 : UInt32).toNat % 32 = 8 by decide, Nat.shiftRight_eq_div_pow]
    omega
  cookie := rfl

/-- **The header codec is a bijection** between types of 12 bits, classes, lengths of 16 bits and
transaction ids, and the 20 bytes with two leading zero bits and the cookie. -/
theorem stunHeader_bijection :
    (∀ (msgType : UInt32) (msgClass : StunMsgClass) (length : UInt32)
      (transactionId dest : StunTransactionId), msgType.toNat < 2 ^ 12 → length.toNat < 2 ^ 16 →
      ∃ bytes, StunHeaderBytes bytes ∧
        Writes (stunProtocolPackHeader msgType msgClass transactionId length) bytes () ∧
        Reads (stunProtocolUnpackHeader dest) bytes
          (.valid, msgType, msgClass, transactionId, length)) ∧
    ∀ (bytes : List UInt8) (dest : StunTransactionId), StunHeaderBytes bytes →
      ∃ msgType msgClass transactionId length,
        Reads (stunProtocolUnpackHeader dest) bytes
          (.valid, msgType, msgClass, transactionId, length) ∧
        Writes (stunProtocolPackHeader msgType msgClass transactionId length) bytes () := by
  constructor
  · intro msgType msgClass length transactionId dest htype hlength
    have hlt := headerType_lt msgType msgClass
    have hread := reads_stunHeader dest transactionId (Nat.lt_trans hlt (by decide)) hlength
    rw [msgType_headerType htype, msgClass_headerType] at hread
    exact ⟨_, wireStunHeader_bytes hlt, writes_stunHeader msgType msgClass transactionId length, hread⟩
  · intro bytes dest h
    obtain ⟨type, length, transactionId, htype, hlength, rfl⟩ := exists_wireStunHeader h
    have hwrite := writes_stunHeader (stunMsgType type) (stunMsgClass type) transactionId length
    rw [headerType_unpacked htype] at hwrite
    exact ⟨_, _, _, _, reads_stunHeader dest transactionId (Nat.lt_trans htype (by decide)) hlength,
      hwrite⟩

theorem stunHeader_bijection_request :
    ∃ bytes, StunHeaderBytes bytes ∧
      Writes (stunProtocolPackHeader kStunMsgTypeBinding .request ⟨Vector.replicate _ 7⟩ 8)
        bytes () ∧
      Reads (stunProtocolUnpackHeader ⟨Vector.replicate _ 0⟩) bytes
        (.valid, kStunMsgTypeBinding, .request, ⟨Vector.replicate _ 7⟩, 8) :=
  stunHeader_bijection.1 kStunMsgTypeBinding .request 8 _ _ (by decide) (by decide)

end UniversalNetwork
