import UniversalNetwork.Datagram.Received
import UniversalNetwork.StunProtocol.Faults

/-!
# Which responses were received whole

The decoder of a response reads bytes that it does not use: the cookie behind its first wrong byte,
the reserved bits of an error code, the value of an attribute of unknown type, and of the header of
such an attribute, when it is the last one, what does not tell that it is. `stunNeed` says from the
bytes how many of them decide what is decoded.

* `unpackAttributes_alike`: the loop returns the same whatever follows the bytes that decide.
* `unpackAttributes_differs`: with another last one of them it returns something else.
* `stun_decodesReceived_iff`: a response is decoded from the received bytes alone exactly when they
  are received and the attributes do not lead out of the packet.
-/

namespace UniversalNetwork

open Lib

/-! ## One attribute -/

/-- An address that is not one of IPv4. -/
def StunAttribute.Refused (stream : Bitstream) (a : StunAttribute) : Prop :=
  StunAddressType a.type ∧ stream.word16 (a.offset + 4) ≠ kStunAddrFamilyIPv4

instance (stream : Bitstream) (a : StunAttribute) : Decidable (a.Refused stream) :=
  inferInstanceAs (Decidable (_ ∧ _))

/-- A type whose value the decoder reads. -/
def StunKnownType (type : UInt32) : Prop :=
  StunAddressType type ∨ type = StunAttributeType.errorCode.code

section Attribute

variable {s t : Bitstream} {n : Nat} {a : StunAttribute} {response : StunBindingResponse}

theorem unpackIPv4_refused {addrOf : UInt32 → UInt32 → NetAddr} {addr : NetAddr} {k : Nat}
    (hroom : k + 2 ≤ s.data.length) (h : s.word16 k ≠ kStunAddrFamilyIPv4) :
    unpackIPv4 addrOf addr (s.moveTo k) = some ((.unsupported, addr), s.moveTo (k + 2)) := by
  rw [unpackIPv4, bind_run (uint16_at hroom), if_pos h]
  rfl

theorem unpackAttribute_refused (hroom : a.offset + 6 ≤ s.data.length) (h : a.Refused s) :
    stunUnpackAttribute a.type a.length response (s.moveTo (a.offset + 4)) =
      some ((.invalid, response), s.moveTo (a.offset + 6)) := by
  have hread : ∀ {addrOf addr}, unpackIPv4 addrOf addr (s.moveTo (a.offset + 4)) =
      some ((.unsupported, addr), s.moveTo (a.offset + 6)) := unpackIPv4_refused hroom h.2
  by_cases hmapped : a.type = StunAttributeType.mappedAddress.code
  · rw [stunUnpackAttribute, if_pos hmapped]
    exact bind_run hread
  by_cases hxor : a.type = StunAttributeType.xorMappedAddress.code
  · rw [stunUnpackAttribute, if_neg hmapped, if_pos hxor]
    exact bind_run hread
  by_cases halternate : a.type = StunAttributeType.alternateServer.code ∨
      a.type = StunAttributeType.otherAddress.code
  · rw [stunUnpackAttribute, if_neg hmapped, if_neg hxor, if_pos halternate]
    exact bind_run hread
  have horigin := h.1.origin hmapped hxor halternate
  rw [stunUnpackAttribute, if_neg hmapped, if_neg hxor, if_neg halternate, if_pos horigin]
  exact bind_run hread

theorem Alike.attributeAt {k : Nat} (h : Alike n s t) (hk : k + 4 ≤ n) :
    t.attributeAt k = s.attributeAt k := by
  rw [Bitstream.attributeAt, Bitstream.attributeAt, h.word16 (by omega), h.word16 (by omega)]

/-- Where the decoder stops is a matter of the header and of the bound. -/
theorem Alike.readEnd (h : Alike n s t) : a.readEnd t = a.readEnd s := by
  have hfit : ∀ length, t.enough (a.offset + 4) length ↔ s.enough (a.offset + 4) length :=
    fun length => (h.moveTo (a.offset + 4)).bytesDoFit
  simp only [StunAttribute.readEnd, Bitstream.skipped, hfit, h.bound]

theorem Alike.accepted (h : Alike n s t) (hn : StunAddressType a.type → a.offset + 6 ≤ n)
    (haccepted : a.Accepted s) : a.Accepted t where
  address := fun htype => by
    have hwhole := hn htype
    rw [h.word16 (by omega), ← h.data.1]
    exact haccepted.address htype
  error := fun herror => h.data.1 ▸ haccepted.error herror

theorem store_of_unknown (htype : ¬ StunKnownType a.type) : a.store s response = response := by
  simp only [StunKnownType, StunAddressType, not_or] at htype
  obtain ⟨⟨hmapped, hxor, halternate, hother, horigin⟩, herror⟩ := htype
  rw [StunAttribute.store, if_neg hmapped, if_neg hxor,
    if_neg fun h => h.elim halternate hother, if_neg horigin, if_neg herror]

theorem store_of_error (herror : a.type = StunAttributeType.errorCode.code) :
    a.store s response = { response with
      errorCodeValue := s.stunErrorCode (a.offset + 4), hasErrorCode := true } := by
  have htype : ¬ StunAddressType a.type := herror ▸ not_addressType_error
  simp only [StunAddressType, not_or] at htype
  obtain ⟨hmapped, hxor, halternate, hother, horigin⟩ := htype
  rw [StunAttribute.store, if_neg hmapped, if_neg hxor,
    if_neg fun h => h.elim halternate hother, if_neg horigin, if_pos herror]

/-- Of an error code the upper two bytes are used. -/
theorem stunErrorCode_eq (s : Bitstream) (k : Nat) : s.stunErrorCode k =
    ((s.word8 (k + 1)).toNat / 32 * 100 + (s.word8 k).toNat : Nat) := by
  have hhigh := s.word8_lt k
  have hlow := s.word8_lt (k + 1)
  have hrest := s.word16_lt (k + 2)
  have hn : (s.word32 k >>> 21).toNat = 8 * (s.word8 k).toNat + (s.word8 (k + 1)).toNat / 32 := by
    rw [UInt32.toNat_shiftRight, show (21 : UInt32).toNat % 32 = 21 from rfl,
      Nat.shiftRight_eq_div_pow, s.word32_toNat, s.word16_toNat k]
    omega
  have hclass : ((s.word32 k >>> 21) &&& (0x07 : UInt32)).toNat = (s.word8 (k + 1)).toNat / 32 := by
    rw [UInt32.toNat_and, hn]
    exact (Nat.and_two_pow_sub_one_eq_mod _ 3).trans (by omega)
  have herror : ((s.word32 k >>> 21 >>> 3) &&& (0xFF : UInt32)).toNat = (s.word8 k).toNat := by
    rw [UInt32.toNat_and, UInt32.toNat_shiftRight, hn, show (3 : UInt32).toNat % 32 = 3 from rfl,
      Nat.shiftRight_eq_div_pow]
    exact (Nat.and_two_pow_sub_one_eq_mod _ 8).trans (by omega)
  refine congrArg Nat.cast ?_
  rw [UInt32.toNat_add, UInt32.toNat_mul, hclass, herror, show (100 : UInt32).toNat = 100 from rfl]
  omega

theorem Alike.store (h : Alike n s t) (haddress : StunAddressType a.type → a.offset + 12 ≤ n)
    (herror : a.type = StunAttributeType.errorCode.code → a.offset + 6 ≤ n) :
    a.store t response = a.store s response := by
  by_cases htype : StunAddressType a.type
  · have hwhole := haddress htype
    have hport := h.word16 (i := a.offset + 4 + 2) (by omega)
    have hhost := h.word32 (i := a.offset + 4 + 4) (by omega)
    have hcode : a.type ≠ StunAttributeType.errorCode.code := fun hcode =>
      not_addressType_error (hcode ▸ htype)
    simp only [StunAttribute.store, Bitstream.stunAddr, Bitstream.stunXorAddr, hport, hhost,
      if_neg hcode]
  · by_cases hcode : a.type = StunAttributeType.errorCode.code
    · have hwhole := herror hcode
      rw [store_of_error hcode, store_of_error hcode, stunErrorCode_eq, stunErrorCode_eq,
        h.word8 (by omega), h.word8 (by omega)]
    · have hunknown := not_or.2 ⟨htype, hcode⟩
      rw [store_of_unknown hunknown, store_of_unknown hunknown]

end Attribute

/-! ## One turn -/

section Turn

variable {s s' t : Bitstream} {n k remaining turns : Nat} {response : StunBindingResponse}
  {x : StunResult × StunBindingResponse}

theorem unpackAttributes_refused (hremaining : remaining ≠ 0) (hroom : k + 6 ≤ s.data.length)
    (h : (s.attributeAt k).Refused s) :
    stunUnpackAttributes (turns + 1) remaining response (s.moveTo k) =
      some ((.invalid, response), s.moveTo (k + 6)) := by
  have hlength : bitstreamReadUint16 (s.moveTo (k + 2)) =
      some (s.word16 (k + 2), s.moveTo (k + 4)) := uint16_at (by omega)
  have hvalue : stunUnpackAttribute (s.word16 k) (s.word16 (k + 2)) response (s.moveTo (k + 4)) =
      some ((.invalid, response), s.moveTo (k + 6)) :=
    unpackAttribute_refused (a := s.attributeAt k) hroom h
  rw [stunUnpackAttributes, if_neg hremaining, bind_run (uint16_at (by omega)), bind_run hlength,
    bind_run hvalue]
  rfl

/-- A turn that returns found an attribute that it accepts, or refuses. -/
theorem unpackAttributes_cases (hremaining : remaining ≠ 0)
    (h : stunUnpackAttributes (turns + 1) remaining response (s.moveTo k) = some (x, s')) :
    k + 4 ≤ s.data.length ∧ (((s.attributeAt k).Accepted s ∧
      stunUnpackAttributes turns (remaining - (s.attributeAt k).length.toNat - 4)
        ((s.attributeAt k).store s response)
        (s.moveTo ((s.attributeAt k).readEnd s)) = some (x, s')) ∨
      ((s.attributeAt k).Refused s ∧ k + 6 ≤ s.data.length ∧ x = (.invalid, response))) := by
  have hsome := (unpackAttributes_succ_isSome hremaining).1 (Option.isSome_iff_exists.2 ⟨_, h⟩)
  obtain ⟨hinside, -⟩ := hsome
  refine ⟨hinside.header, ?_⟩
  by_cases haccepted : (s.attributeAt k).Accepted s
  · have hheader : k + 4 ≤ s.data.length := hinside.header
    rw [unpackAttributes_turn hremaining hheader haccepted] at h
    exact .inl ⟨haccepted, h⟩
  · by_cases hrefused : (s.attributeAt k).Refused s
    · have hroom : k + 6 ≤ s.data.length := hinside.family hrefused.1
      rw [unpackAttributes_refused hremaining hroom hrefused] at h
      cases h
      exact .inr ⟨hrefused, hroom, rfl⟩
    · refine absurd ⟨fun htype => ?_, hinside.error⟩ haccepted
      have hfamily := not_not.1 fun hne => hrefused ⟨htype, hne⟩
      exact ⟨hfamily, hinside.address htype hfamily⟩

theorem unpackAttributes_zero (turns : Nat) (response : StunBindingResponse) :
    stunUnpackAttributes turns 0 response s = some ((.valid, response), s) := by
  cases turns <;> rfl

theorem le_skipped (hs : s.Sized) {length : Nat} (hk : k ≤ s.data.length) :
    k ≤ s.skipped k length := by
  have hsize := hs.size
  have hbound := hs.bound
  rw [Bitstream.skipped]
  split
  · rename_i hfit
    have hle := hs.stops_inside hk hfit
    rw [Nat.mod_eq_of_lt (by omega)]
    split <;> omega
  · exact Nat.le_refl _

/-- The decoder stops behind the header of an attribute. -/
theorem lt_readEnd (hs : s.Sized) (hk : k + 4 ≤ s.data.length) :
    k + 4 ≤ (s.attributeAt k).readEnd s := by
  rw [StunAttribute.readEnd]
  by_cases htype : StunAddressType (s.attributeAt k).type
  · rw [if_pos htype]
    exact Nat.le_add_right (k + 4) 8
  rw [if_neg htype]
  by_cases herror : (s.attributeAt k).type = StunAttributeType.errorCode.code
  · rw [if_pos herror]
    exact Nat.le_add_right (k + 4) 4
  · rw [if_neg herror]
    exact le_skipped hs hk

end Turn

/-! ## What decides the loop -/

namespace Bitstream

variable (stream : Bitstream)

/-- How many bytes tell that an attribute of unknown type is of one, and the last. -/
def skippedNeed (k remaining : Nat) : Nat :=
  if 256 * (stream.word8 (k + 2)).toNat + 4 < remaining then k + 4
  else if 4 < remaining then k + 3
  else if stream.word8 k = 0x00 ∨ stream.word8 k = 0x80 then k + 2
  else k + 1

/-- How many bytes decide what the loop returns. -/
def attributesNeed : (turns k remaining : Nat) → Nat
  | 0, k, _ => k
  | turns + 1, k, remaining =>
    if (stream.attributeAt k).Refused stream then
      if stream.word8 (k + 4) ≠ 0 then k + 5 else k + 6
    else if (stream.word16 (k + 2)).toNat + 4 < remaining then
      attributesNeed turns ((stream.attributeAt k).readEnd stream)
        (remaining - (stream.word16 (k + 2)).toNat - 4)
    else if StunAddressType (stream.word16 k) then k + 12
    else if stream.word16 k = StunAttributeType.errorCode.code then k + 6
    else stream.skippedNeed k remaining

end Bitstream

section Needs

variable {s s' t : Bitstream} {n k remaining turns : Nat} {response : StunBindingResponse}
  {x : StunResult × StunBindingResponse}

theorem family_eq_iff : s.word16 k = kStunAddrFamilyIPv4 ↔ s.word8 k = 0 ∧ s.word8 (k + 1) = 1 := by
  have hlow := s.word8_lt (k + 1)
  rw [s.word16_eq_iff, ← UInt32.toNat_inj, ← UInt32.toNat_inj,
    show kStunAddrFamilyIPv4.toNat = 1 from rfl, show (0 : UInt32).toNat = 0 from rfl,
    show (1 : UInt32).toNat = 1 from rfl]
  omega

/-- The types that the decoder knows have one of two high bytes. -/
theorem unknown_of_high (hzero : s.word8 k ≠ 0x00) (hhigh : s.word8 k ≠ 0x80) :
    ¬ StunKnownType (s.word16 k) := by
  have hlow := s.word8_lt (k + 1)
  have hzero' : (s.word8 k).toNat ≠ 0 := fun h => hzero (UInt32.toNat_inj.1 h)
  have hhigh' : (s.word8 k).toNat ≠ 128 := fun h => hhigh (UInt32.toNat_inj.1 h)
  have hcode : ∀ c : UInt32, c.toNat < 256 ∨ (0x8000 ≤ c.toNat ∧ c.toNat < 0x8100) →
      s.word16 k ≠ c := by
    intro c hc h
    rw [s.word16_eq_iff] at h
    omega
  rintro ((h | h | h | h | h) | h) <;> exact hcode _ (by decide) h

/-- The bytes that tell it tell it. -/
theorem Alike.skippedNeed (h : Alike n s t) (hn : s.skippedNeed k remaining ≤ n)
    (htype : ¬ StunKnownType (s.word16 k)) (hlast : remaining ≤ (s.word16 (k + 2)).toNat + 4) :
    ¬ StunKnownType (t.word16 k) ∧ remaining ≤ (t.word16 (k + 2)).toNat + 4 := by
  rw [Bitstream.skippedNeed] at hn
  split at hn
  · rw [h.word16 (by omega), h.word16 (by omega)]
    exact ⟨htype, hlast⟩
  rename_i hshort
  split at hn
  · rw [h.word16 (by omega), t.word16_toNat, h.word8 (by omega)]
    exact ⟨htype, by omega⟩
  refine ⟨?_, by omega⟩
  split at hn
  · rw [h.word16 (by omega)]
    exact htype
  · rename_i hhigh
    rw [not_or] at hhigh
    exact unknown_of_high (by rw [h.word8 (by omega)]; exact hhigh.1)
      (by rw [h.word8 (by omega)]; exact hhigh.2)

theorem lt_skippedNeed (s : Bitstream) (k remaining : Nat) : k < s.skippedNeed k remaining := by
  rw [Bitstream.skippedNeed]
  split
  · omega
  split
  · omega
  split <;> omega

theorem Accepted.not_refused {a : StunAttribute} (h : a.Accepted s) : ¬ a.Refused s :=
  fun hrefused => hrefused.2 (h.address hrefused.1).1

theorem lt_attributesNeed (hs : s.Sized) (hremaining : remaining ≠ 0) (hturns : remaining ≤ turns)
    (h : stunUnpackAttributes turns remaining response (s.moveTo k) = some (x, s')) :
    k < s.attributesNeed turns k remaining := by
  induction turns generalizing remaining k response with
  | zero => omega
  | succ turns ih =>
    obtain ⟨hheader, hcases⟩ := unpackAttributes_cases hremaining h
    rw [Bitstream.attributesNeed]
    rcases hcases with ⟨haccepted, hrest⟩ | ⟨hrefused, -, -⟩
    · rw [if_neg (Accepted.not_refused haccepted)]
      split
      · have hend := lt_readEnd hs hheader
        have hlt := ih (by show _ - (s.word16 (k + 2)).toNat - 4 ≠ 0; omega)
          (by show _ - (s.word16 (k + 2)).toNat - 4 ≤ turns; omega) hrest
        exact (Nat.lt_of_lt_of_le (by omega) hend).trans hlt
      split
      · omega
      split
      · omega
      · exact lt_skippedNeed s k remaining
    · rw [if_pos hrefused]
      split <;> omega

/-! The same bytes up to there, the same result. -/

theorem Alike.refused (h : Alike n s t) (hrefused : (s.attributeAt k).Refused s)
    (hn : (if s.word8 (k + 4) ≠ 0 then k + 5 else k + 6) ≤ n) : (t.attributeAt k).Refused t := by
  refine ⟨?_, fun (hfamily : t.word16 (k + 4) = kStunAddrFamilyIPv4) => ?_⟩
  · have htype : t.word16 k = s.word16 k := h.word16 (by split at hn <;> omega)
    show StunAddressType (t.word16 k)
    rw [htype]
    exact hrefused.1
  · obtain ⟨hhigh, hlow⟩ := family_eq_iff.1 hfamily
    rw [h.word8 (by split at hn <;> omega)] at hhigh
    rw [if_neg (not_not_intro hhigh)] at hn
    refine hrefused.2 (family_eq_iff.2 ⟨hhigh, ?_⟩)
    rw [← hlow]
    exact (h.word8 (show k + 5 < n by omega)).symm

theorem readEnd_address (htype : StunAddressType (s.word16 k)) :
    (s.attributeAt k).readEnd s = k + 12 := if_pos htype

theorem readEnd_error (herror : s.word16 k = StunAttributeType.errorCode.code) :
    (s.attributeAt k).readEnd s = k + 8 :=
  (if_neg fun htype : StunAddressType (s.word16 k) =>
    not_addressType_error (herror ▸ htype)).trans (if_pos herror)

theorem accepted_of_unknown (h : ¬ StunKnownType (s.word16 k)) : (s.attributeAt k).Accepted s :=
  ⟨fun htype => absurd (.inl htype) h, fun herror => absurd (.inr herror) h⟩

/-- The same turn on an attribute that is accepted. -/
theorem Alike.turn (h : Alike n s t) (hremaining : remaining ≠ 0) (hk : k + 4 ≤ n)
    (hheader : k + 4 ≤ s.data.length) (haccepted : (s.attributeAt k).Accepted s)
    (haddress : StunAddressType (s.word16 k) → k + 12 ≤ n)
    (herror : s.word16 k = StunAttributeType.errorCode.code → k + 6 ≤ n) :
    stunUnpackAttributes (turns + 1) remaining response (t.moveTo k) =
      stunUnpackAttributes turns (remaining - (s.word16 (k + 2)).toNat - 4)
        ((s.attributeAt k).store s response) (t.moveTo ((s.attributeAt k).readEnd s)) := by
  have hsame := h.attributeAt hk
  have haccepted' : (t.attributeAt k).Accepted t := by
    rw [hsame]
    exact h.accepted (fun htype => by have := haddress htype; show k + 6 ≤ n; omega) haccepted
  rw [unpackAttributes_turn hremaining (h.data.1 ▸ hheader) haccepted', hsame,
    h.store haddress herror, h.readEnd]
  rfl

theorem unpackAttributes_alike (hs : s.Sized) (h : Alike n s t) (hremaining : remaining ≠ 0)
    (hturns : remaining ≤ turns) (hn : s.attributesNeed turns k remaining ≤ n)
    (hrun : stunUnpackAttributes turns remaining response (s.moveTo k) = some (x, s')) :
    ∃ t', stunUnpackAttributes turns remaining response (t.moveTo k) = some (x, t') := by
  induction turns generalizing remaining k response with
  | zero => omega
  | succ turns ih =>
    obtain ⟨hheader, hcases⟩ := unpackAttributes_cases hremaining hrun
    rw [Bitstream.attributesNeed] at hn
    rcases hcases with ⟨haccepted, hrest⟩ | ⟨hrefused, hroom, rfl⟩
    · rw [if_neg (Accepted.not_refused haccepted)] at hn
      by_cases hlast : (s.word16 (k + 2)).toNat + 4 < remaining
      · rw [if_pos hlast] at hn
        have hne : remaining - (s.word16 (k + 2)).toNat - 4 ≠ 0 := by omega
        have hend := lt_readEnd hs hheader
        have hlt := lt_attributesNeed hs hne (by omega) hrest
        rw [h.turn hremaining (by omega) hheader haccepted
          (fun htype => by have := readEnd_address htype; omega)
          (fun herror => by have := readEnd_error herror; omega)]
        exact ih hne (by omega) hn hrest
      have hzero : remaining - (s.word16 (k + 2)).toNat - 4 = 0 := by omega
      rw [if_neg hlast] at hn
      rw [show (s.attributeAt k).length = s.word16 (k + 2) from rfl, hzero,
        unpackAttributes_zero] at hrest
      cases hrest
      by_cases hknown : StunKnownType (s.word16 k)
      · have haddress : StunAddressType (s.word16 k) → k + 12 ≤ n := fun htype => by
          rwa [if_pos htype] at hn
        have herror : s.word16 k = StunAttributeType.errorCode.code → k + 6 ≤ n := fun herror => by
          rwa [if_neg (herror ▸ not_addressType_error), if_pos herror] at hn
        have hk : k + 4 ≤ n := hknown.elim (fun htype => by have := haddress htype; omega)
          fun hcode => by have := herror hcode; omega
        rw [h.turn hremaining hk hheader haccepted haddress herror, hzero, unpackAttributes_zero]
        exact ⟨_, rfl⟩
      · obtain ⟨htype, herror⟩ := not_or.1 hknown
        rw [if_neg htype, if_neg herror] at hn
        obtain ⟨hunknown, hlast'⟩ := h.skippedNeed hn hknown (by omega)
        have hzero' : remaining - (t.attributeAt k).length.toNat - 4 = 0 := by
          show remaining - (t.word16 (k + 2)).toNat - 4 = 0
          omega
        rw [unpackAttributes_turn hremaining (h.data.1 ▸ hheader) (accepted_of_unknown hunknown),
          hzero', unpackAttributes_zero, store_of_unknown (a := t.attributeAt k) hunknown,
          store_of_unknown (a := s.attributeAt k) hknown]
        exact ⟨_, rfl⟩
    · rw [if_pos hrefused] at hn
      exact ⟨_, unpackAttributes_refused hremaining (h.data.1 ▸ hroom) (h.refused hrefused hn)⟩

end Needs

/-! ## The last byte of a value -/

section Values

variable {s t : Bitstream} {k : Nat} {a : StunAttribute} {response : StunBindingResponse}

theorem htonl_low (x : UInt32) {i : Nat} (hi : i < 8) :
    (htonl x).toBitVec.getLsbD (i + 24) = x.toBitVec.getLsbD i := by
  have hmask : ∀ i < 8, (0xFF0000#32).getLsbD (i + 24) = false ∧
      (0xFF00#32).getLsbD (i + 24) = false := by decide
  have hbeyond : x.toBitVec.getLsbD (24 + (i + 24)) = false := BitVec.getLsbD_of_ge _ _ (by omega)
  simp [htonl, show i + 24 < 32 by omega, show ¬ i + 24 < 24 by omega, hmask i hi, hbeyond,
    -BitVec.getLsbD_eq_getElem]

theorem word32_low (s : Bitstream) (k : Nat) {i : Nat} (hi : i < 8) :
    (s.word32 k).toBitVec.getLsbD i = (s.data[k + 3]?.getD 0).toBitVec.getLsbD i := by
  simp [Bitstream.word32, Bitstream.word8, hi, show i < 32 by omega, show i < 16 by omega,
    show i < 24 by omega]

/-- A host, masked or not, has the last byte of its word. -/
theorem htonl_word32_low {c : UInt32} (h : htonl (t.word32 k ^^^ c) = htonl (s.word32 k ^^^ c)) :
    t.data[k + 3]?.getD 0 = s.data[k + 3]?.getD 0 := by
  refine byte_ext fun i hi => ?_
  have hbit := congrArg (fun x : UInt32 => x.toBitVec.getLsbD (i + 24)) h
  rw [htonl_low _ hi, htonl_low _ hi, UInt32.toBitVec_xor, UInt32.toBitVec_xor,
    BitVec.getLsbD_xor, BitVec.getLsbD_xor, word32_low t k hi, word32_low s k hi] at hbit
  exact Bool.xor_left_inj.1 hbit

/-- What is stored of an address has the host of its value. -/
theorem store_host (htype : StunAddressType a.type) :
    ∃ (addr : StunBindingResponse → NetAddr) (c : UInt32), ∀ stream response,
      (addr (a.store stream response)).sAddr = htonl (stream.word32 (a.offset + 8) ^^^ c) := by
  have hzero : ∀ x : UInt32, x ^^^ 0 = x := fun x => UInt32.xor_zero
  by_cases hmapped : a.type = StunAttributeType.mappedAddress.code
  · refine ⟨(·.mappedAddressAddr), 0, fun stream response => ?_⟩
    rw [StunAttribute.store, if_pos hmapped, hzero]
    rfl
  by_cases hxor : a.type = StunAttributeType.xorMappedAddress.code
  · refine ⟨(·.xorMappedAddressAddr), kStunProtocolMagicCookie, fun stream response => ?_⟩
    rw [StunAttribute.store, if_neg hmapped, if_pos hxor]
    rfl
  by_cases halternate : a.type = StunAttributeType.alternateServer.code ∨
      a.type = StunAttributeType.otherAddress.code
  · refine ⟨(·.alternateServerAddr), 0, fun stream response => ?_⟩
    rw [StunAttribute.store, if_neg hmapped, if_neg hxor, if_pos halternate, hzero]
    rfl
  have horigin := htype.origin hmapped hxor halternate
  refine ⟨(·.responseOriginAddr), 0, fun stream response => ?_⟩
  rw [StunAttribute.store, if_neg hmapped, if_neg hxor, if_neg halternate, if_pos horigin, hzero]
  rfl

theorem store_address_ne (htype : StunAddressType a.type)
    (h : t.data[a.offset + 11]?.getD 0 ≠ s.data[a.offset + 11]?.getD 0) :
    a.store t response ≠ a.store s response := by
  obtain ⟨addr, c, hstore⟩ := store_host htype
  intro heq
  have hhost := congrArg (fun r => (addr r).sAddr) heq
  rw [hstore, hstore] at hhost
  exact h (htonl_word32_low hhost)

/-- The class is in the upper bits of the second byte. -/
theorem store_error_ne (herror : a.type = StunAttributeType.errorCode.code)
    (hhigh : t.word8 (a.offset + 4) = s.word8 (a.offset + 4))
    (h : (t.word8 (a.offset + 5)).toNat / 32 ≠ (s.word8 (a.offset + 5)).toNat / 32) :
    a.store t response ≠ a.store s response := by
  rw [store_of_error herror, store_of_error herror]
  intro heq
  have hcode : t.stunErrorCode (a.offset + 4) = s.stunErrorCode (a.offset + 4) :=
    congrArg StunBindingResponse.errorCodeValue heq
  rw [stunErrorCode_eq, stunErrorCode_eq, hhigh] at hcode
  have hsum : (t.word8 (a.offset + 5)).toNat / 32 * 100 + (s.word8 (a.offset + 4)).toNat =
      (s.word8 (a.offset + 5)).toNat / 32 * 100 + (s.word8 (a.offset + 4)).toNat :=
    Int.ofNat_inj.1 hcode
  omega

end Values

/-! ## Other bytes, another result -/

section Differs

variable {s s' t t' : Bitstream} {k m remaining turns : Nat} {response : StunBindingResponse}
  {x y : StunResult × StunBindingResponse} {f : Nat → UInt8}

/-- An address of another family is refused. -/
theorem result_of_foreign (hremaining : remaining ≠ 0)
    (htype : k + 4 ≤ t.data.length → StunAddressType (t.word16 k))
    (hfamily : k + 4 < t.data.length → t.word8 (k + 4) ≠ 0)
    (h : stunUnpackAttributes (turns + 1) remaining response (t.moveTo k) = some (y, t')) :
    y.1 = .invalid := by
  obtain ⟨hheader, ⟨haccepted, -⟩ | ⟨-, -, rfl⟩⟩ := unpackAttributes_cases hremaining h
  · obtain ⟨hipv4, hroom⟩ := haccepted.address (htype hheader)
    exact absurd (family_eq_iff.1 hipv4).1
      (hfamily (show k + 4 < t.data.length from Nat.lt_of_lt_of_le (by
        show k + 4 < k + 4 + 8; omega) hroom))
  · rfl

/-- Where no type is known and no length leaves anything, the loop ends. -/
theorem result_of_filled (hmax : remaining ≤ 65535)
    (hfilled : ∀ i, k ≤ i → i < t.data.length → t.word8 i = 0xFF)
    (h : stunUnpackAttributes turns remaining response (t.moveTo k) = some (y, t')) :
    y.1 = .valid := by
  cases turns with
  | zero =>
    cases h
    rfl
  | succ turns =>
    by_cases hremaining : remaining = 0
    · rw [hremaining, unpackAttributes_zero] at h
      cases h
      rfl
    obtain ⟨hheader, hcases⟩ := unpackAttributes_cases hremaining h
    have htype : ¬ StunKnownType (t.word16 k) :=
      unknown_of_high (by rw [hfilled k (by omega) (by omega)]; decide)
        (by rw [hfilled k (by omega) (by omega)]; decide)
    rcases hcases with ⟨-, hrest⟩ | ⟨hrefused, -, -⟩
    · have hlength : (t.word16 (k + 2)).toNat = 65535 := by
        rw [t.word16_toNat, hfilled _ (by omega) (by omega), hfilled _ (by omega) (by omega)]
        rfl
      have hzero : remaining - (t.attributeAt k).length.toNat - 4 = 0 := by
        show remaining - (t.word16 (k + 2)).toNat - 4 = 0
        omega
      rw [hzero, unpackAttributes_zero] at hrest
      cases hrest
      rfl
    · exact absurd (.inl hrefused.1) htype

/-- An attribute that is skipped, and behind it an address of another family. -/
theorem result_of_skipped (hmore : (t.word16 (k + 2)).toNat + 4 < remaining)
    (hturns : remaining ≤ turns + 1) (hunknown : ¬ StunKnownType (t.word16 k))
    (hend : (t.attributeAt k).readEnd t = m)
    (htype : m + 4 ≤ t.data.length → StunAddressType (t.word16 m))
    (hfamily : m + 4 < t.data.length → t.word8 (m + 4) ≠ 0)
    (h : stunUnpackAttributes (turns + 1) remaining response (t.moveTo k) = some (y, t')) :
    y.1 = .invalid := by
  have hremaining : remaining ≠ 0 := by omega
  obtain ⟨-, ⟨-, hrest⟩ | ⟨hrefused, -, -⟩⟩ := unpackAttributes_cases hremaining h
  · have hne : remaining - (t.attributeAt k).length.toNat - 4 ≠ 0 := by
      show remaining - (t.word16 (k + 2)).toNat - 4 ≠ 0
      omega
    obtain ⟨turns, rfl⟩ := Nat.exists_eq_succ_of_ne_zero (show turns ≠ 0 by omega)
    rw [hend] at hrest
    exact result_of_foreign hne htype hfamily hrest
  · exact absurd (.inl hrefused.1) hunknown

/-- The family of IPv4 in the value at index `k + 4`, and nothing known behind it. -/
def ipv4Family (k i : Nat) : UInt8 := if i = k + 4 then 0 else if i = k + 5 then 1 else 0xFF

/-- A MAPPED-ADDRESS at index `k`, of no known family. -/
def foreignAddress (k i : Nat) : UInt8 := if i = k + 1 then 1 else if i = k + 4 then 0xFF else 0

/-- For an address that is refused, one that is not. -/
theorem refused_differs (turns : Nat) (response : StunBindingResponse)
    (hremaining : remaining ≠ 0) (hmax : remaining ≤ 65535) (hrefused : (s.attributeAt k).Refused s)
    (hm : m + 1 = if s.word8 (k + 4) ≠ 0 then k + 5 else k + 6) :
    ∃ f, ∀ y t', stunUnpackAttributes (turns + 1) remaining response ((s.refill m f).moveTo k) =
      some (y, t') → y.1 = .valid := by
  refine ⟨ipv4Family k, fun y t' h => ?_⟩
  have hst := alike_refill s m (ipv4Family k)
  have hword : ∀ i, m ≤ i → i < s.data.length →
      (s.refill m (ipv4Family k)).word8 i = (ipv4Family k i).toUInt32 :=
    fun i hi hlt => word8_refill _ hi hlt
  generalize s.refill m (ipv4Family k) = t at h hst hword
  rw [hst.data.1] at hword
  have hbounds : k + 4 ≤ m ∧ m ≤ k + 5 := by split at hm <;> omega
  obtain ⟨hheader, hcases⟩ := unpackAttributes_cases hremaining h
  have htype : t.word16 k = s.word16 k := hst.word16 (by omega)
  have hipv4 : k + 6 ≤ t.data.length → t.word16 (k + 4) = kStunAddrFamilyIPv4 := by
    intro hroom
    refine family_eq_iff.2 ⟨?_, ?_⟩
    · by_cases hhigh : s.word8 (k + 4) = 0
      · rw [if_neg (not_not_intro hhigh)] at hm
        exact (hst.word8 (by omega)).trans hhigh
      · rw [if_pos hhigh] at hm
        rw [hword _ (by omega) (by omega), ipv4Family, if_pos rfl]
        rfl
    · rw [hword _ (by omega) (by omega), ipv4Family, if_neg (by omega), if_pos rfl]
      rfl
  rcases hcases with ⟨-, hrest⟩ | ⟨hrefused', hroom, -⟩
  · rw [readEnd_address (htype ▸ hrefused.1)] at hrest
    refine result_of_filled (by omega) (fun i hi hlt => ?_) hrest
    rw [hword i (by omega) hlt, ipv4Family, if_neg (by omega), if_neg (by omega)]
    rfl
  · exact absurd (hipv4 hroom) hrefused'.2

/-- For a last attribute of unknown type, one that is not the last. -/
theorem shortened_differs (length : Nat) (hs : s.Sized) (hturns : remaining ≤ turns + 1)
    (hheader : k + 4 ≤ s.data.length) (hunknown : ¬ StunKnownType (s.word16 k))
    (hm : k + 2 ≤ m) (hmore : length + 4 < remaining) (hlength : ∀ f : Nat → UInt8, f (k + 2) = 0 →
      f (k + 3) = 0 → ((s.refill m f).word16 (k + 2)).toNat = length) (hlow : m ≤ k + 4) :
    ∃ f, ∀ y t', stunUnpackAttributes (turns + 1) remaining response ((s.refill m f).moveTo k) =
      some (y, t') → y.1 = .invalid := by
  obtain ⟨k', hk'⟩ : ∃ k', k' = s.skipped (k + 4) length := ⟨_, rfl⟩
  have hskipped : k + 4 ≤ k' := by
    rw [hk']
    exact le_skipped hs hheader
  refine ⟨foreignAddress k', fun y t' h => ?_⟩
  have hst := alike_refill s m (foreignAddress k')
  have hlen := hlength (foreignAddress k')
    (by rw [foreignAddress, if_neg (by omega), if_neg (by omega)])
    (by rw [foreignAddress, if_neg (by omega), if_neg (by omega)])
  have hword : ∀ i, m ≤ i → i < s.data.length →
      (s.refill m (foreignAddress k')).word8 i = (foreignAddress k' i).toUInt32 :=
    fun i hi hlt => word8_refill _ hi hlt
  have hend : (s.refill m (foreignAddress k')).skipped (k + 4) length = k' := hk'.symm
  generalize s.refill m (foreignAddress k') = t at h hst hlen hword hend
  rw [hst.data.1] at hword
  have htype : t.word16 k = s.word16 k := hst.word16 (by omega)
  rw [← htype] at hunknown
  obtain ⟨haddress, herror⟩ := not_or.1 hunknown
  have hread : (t.attributeAt k).readEnd t = k' := by
    rw [← hlen] at hend
    exact (if_neg haddress).trans ((if_neg herror).trans hend)
  refine result_of_skipped (hlen.symm ▸ hmore) hturns hunknown hread (fun hroom => ?_)
    (fun hroom => ?_) h
  · refine .inl ((t.word16_eq_iff k').2 ?_)
    rw [hword _ (by omega) (by omega), hword _ (by omega) (by omega), foreignAddress,
      foreignAddress, if_neg (by omega), if_neg (by omega), if_pos rfl]
    rfl
  · rw [hword _ (by omega) hroom, foreignAddress, if_neg (by omega), if_pos rfl]
    decide

/-- For a type that is unknown, one that is known. -/
theorem retyped_differs (hremaining : remaining ≠ 0)
    (hm : (m = k + 1 ∧ (s.word8 k = 0x00 ∨ s.word8 k = 0x80)) ∨ (m = k ∧ s.word8 k ≠ 0x80)) :
    ∃ f, ∀ y t', stunUnpackAttributes (turns + 1) remaining response ((s.refill m f).moveTo k) =
      some (y, t') → y.1 = .invalid := by
  have hword : ∀ f i, m ≤ i → i < s.data.length → (s.refill m f).word8 i = (f i).toUInt32 :=
    fun f i hi hlt => word8_refill f hi hlt
  have hroom : ∀ f, (s.refill m f).data.length = s.data.length :=
    fun f => (alike_refill s m f).data.1.symm
  by_cases hhigh : m = k + 1 ∧ s.word8 k = 0x80
  · obtain ⟨rfl, hhigh⟩ := hhigh
    refine ⟨fun i => if i = k + 1 then 0x23 else 0xFF, fun y t' h => ?_⟩
    refine result_of_foreign hremaining (fun hheader => ?_) (fun hfamily => ?_) h
    · rw [hroom] at hheader
      refine .inr (.inr (.inl ((Bitstream.word16_eq_iff _ k).2 ?_)))
      rw [(alike_refill s (k + 1) _).word8 (Nat.lt_succ_self k), hhigh,
        hword _ _ (by omega) (by omega), if_pos rfl]
      rfl
    · rw [hroom] at hfamily
      rw [hword _ _ (by omega) hfamily, if_neg (by omega)]
      decide
  · refine ⟨foreignAddress k, fun y t' h => ?_⟩
    refine result_of_foreign hremaining (fun hheader => ?_) (fun hfamily => ?_) h
    · rw [hroom] at hheader
      have hzero : (s.refill m (foreignAddress k)).word8 k = 0 := by
        rcases hm with ⟨rfl, hzero | hhigh'⟩ | ⟨rfl, -⟩
        · exact ((alike_refill s (k + 1) _).word8 (Nat.lt_succ_self k)).trans hzero
        · exact absurd ⟨rfl, hhigh'⟩ hhigh
        · rw [hword _ _ (by omega) (by omega), foreignAddress, if_neg (by omega),
            if_neg (by omega)]
          rfl
      refine .inl ((Bitstream.word16_eq_iff _ k).2 ?_)
      rw [hzero, hword _ _ (by omega) (by omega), foreignAddress, if_pos rfl]
      rfl
    · rw [hroom] at hfamily
      rw [hword _ _ (by omega) hfamily, foreignAddress, if_neg (by omega), if_pos rfl]
      decide

/-- A last attribute, and other bytes in its value. -/
theorem last_turn (hst : Alike m s t) (hremaining : remaining ≠ 0) (hheader : k + 4 ≤ s.data.length)
    (hlast : remaining ≤ (s.word16 (k + 2)).toNat + 4) (haccepted : (s.attributeAt k).Accepted s)
    (hk : k + 4 ≤ m) (hfamily : StunAddressType (s.word16 k) → k + 6 ≤ m)
    (h : stunUnpackAttributes (turns + 1) remaining response (t.moveTo k) = some (y, t')) :
    y = (.valid, (s.attributeAt k).store t response) := by
  have hsame := hst.attributeAt hk
  have haccepted' : (t.attributeAt k).Accepted t := by
    rw [hsame]
    exact hst.accepted hfamily haccepted
  have hzero : remaining - (s.attributeAt k).length.toNat - 4 = 0 := by
    show remaining - (s.word16 (k + 2)).toNat - 4 = 0
    omega
  rw [unpackAttributes_turn hremaining (hst.data.1 ▸ hheader) haccepted', hsame, hzero,
    unpackAttributes_zero] at h
  cases h
  rfl

theorem address_differs (hremaining : remaining ≠ 0) (hheader : k + 4 ≤ s.data.length)
    (hlast : remaining ≤ (s.word16 (k + 2)).toNat + 4) (haccepted : (s.attributeAt k).Accepted s)
    (htype : StunAddressType (s.word16 k)) :
    ∃ f, ∀ y t', stunUnpackAttributes (turns + 1) remaining response
      ((s.refill (k + 11) f).moveTo k) = some (y, t') →
        y ≠ (.valid, (s.attributeAt k).store s response) := by
  refine ⟨fun _ => s.data[k + 11]?.getD 0 + 1, fun y t' h heq => ?_⟩
  have hroom : k + 4 + 8 ≤ s.data.length := (haccepted.address htype).2
  rw [last_turn (alike_refill s _ _) hremaining hheader hlast haccepted (by omega)
    (fun _ => by omega) h] at heq
  refine store_address_ne (a := s.attributeAt k) htype ?_ (congrArg Prod.snd heq)
  show (Lib.refill _ _ _)[k + 11]?.getD 0 ≠ s.data[k + 11]?.getD 0
  rw [getElem?_refill _ (Nat.le_refl _) (by omega)]
  exact UInt8.succ_ne _

theorem error_differs (hremaining : remaining ≠ 0) (hheader : k + 4 ≤ s.data.length)
    (hlast : remaining ≤ (s.word16 (k + 2)).toNat + 4) (haccepted : (s.attributeAt k).Accepted s)
    (herror : s.word16 k = StunAttributeType.errorCode.code) :
    ∃ f, ∀ y t', stunUnpackAttributes (turns + 1) remaining response
      ((s.refill (k + 5) f).moveTo k) = some (y, t') →
        y ≠ (.valid, (s.attributeAt k).store s response) := by
  refine ⟨fun _ => s.data[k + 5]?.getD 0 + 32, fun y t' h heq => ?_⟩
  have hroom : k + 4 + 4 ≤ s.data.length := haccepted.error herror
  have htype : ¬ StunAddressType (s.word16 k) := fun htype =>
    not_addressType_error (herror ▸ htype)
  rw [last_turn (alike_refill s _ _) hremaining hheader hlast haccepted (by omega)
    (fun h => absurd h htype) h] at heq
  refine store_error_ne (a := s.attributeAt k) herror
    ((alike_refill s (k + 5) _).word8 (Nat.lt_succ_self (k + 4))) ?_ (congrArg Prod.snd heq)
  show (Bitstream.word8 _ (k + 5)).toNat / 32 ≠ (s.word8 (k + 5)).toNat / 32
  rw [word8_refill _ (Nat.le_refl _) (by omega), Bitstream.word8, UInt8.toNat_toUInt32,
    UInt8.toNat_toUInt32, UInt8.toNat_add, show (32 : UInt8).toNat = 32 from rfl]
  have hlt := UInt8.toNat_lt (s.data[k + 5]?.getD 0)
  omega

/-- A last attribute of unknown type. -/
theorem skipped_differs (response : StunBindingResponse) (hs : s.Sized)
    (hremaining : remaining ≠ 0) (hturns : remaining ≤ turns + 1)
    (hheader : k + 4 ≤ s.data.length) (hunknown : ¬ StunKnownType (s.word16 k)) :
    ∃ f, ∀ y t', stunUnpackAttributes (turns + 1) remaining response
      ((s.refill (s.skippedNeed k remaining - 1) f).moveTo k) = some (y, t') → y.1 = .invalid := by
  rw [Bitstream.skippedNeed]
  split
  · rename_i hmore
    refine shortened_differs _ hs hturns hheader hunknown (by omega) hmore (fun f _ hlow => ?_)
      (by omega)
    rw [Bitstream.word16_toNat, (alike_refill s _ f).word8 (by omega),
      word8_refill f (by omega) (by omega), hlow]
    rfl
  split
  · rename_i hmore
    refine shortened_differs 0 hs hturns hheader hunknown (by omega) (by omega)
      (fun f hhigh hlow => ?_) (by omega)
    rw [Bitstream.word16_toNat, word8_refill f (by omega) (by omega),
      word8_refill f (by omega) (by omega), hhigh, hlow]
    rfl
  split
  · rename_i hhigh
    exact retyped_differs hremaining (.inl ⟨by omega, hhigh⟩)
  · rename_i hhigh
    exact retyped_differs hremaining (.inr ⟨by omega, fun h => hhigh (.inr h)⟩)

/-- **The bytes that decide** are needed: with another last one of them the loop returns something
else. -/
theorem unpackAttributes_differs (hs : s.Sized) (hremaining : remaining ≠ 0)
    (hturns : remaining ≤ turns) (hmax : remaining ≤ 65535)
    (h : stunUnpackAttributes turns remaining response (s.moveTo k) = some (x, s')) :
    ∃ f, ∀ y t', stunUnpackAttributes turns remaining response
      ((s.refill (s.attributesNeed turns k remaining - 1) f).moveTo k) = some (y, t') → y ≠ x := by
  induction turns generalizing remaining k response with
  | zero => omega
  | succ turns ih =>
    obtain ⟨hheader, hcases⟩ := unpackAttributes_cases hremaining h
    rw [Bitstream.attributesNeed]
    rcases hcases with ⟨haccepted, hrest⟩ | ⟨hrefused, -, rfl⟩
    · rw [if_neg (Accepted.not_refused haccepted)]
      split
      · rename_i hmore
        have hne : remaining - (s.word16 (k + 2)).toNat - 4 ≠ 0 := by omega
        have hend := lt_readEnd hs hheader
        have hlt := lt_attributesNeed hs hne (by omega) hrest
        obtain ⟨f, hf⟩ := ih hne (by omega) (by omega) hrest
        refine ⟨f, fun y t' hrun => hf y t' ?_⟩
        rw [← hrun]
        exact ((alike_refill s _ f).turn hremaining (by omega) hheader haccepted
          (fun htype => by have := readEnd_address htype; omega)
          (fun herror => by have := readEnd_error herror; omega)).symm
      rename_i hlast
      have hzero : remaining - (s.attributeAt k).length.toNat - 4 = 0 := by
        show remaining - (s.word16 (k + 2)).toNat - 4 = 0
        omega
      rw [hzero, unpackAttributes_zero] at hrest
      cases hrest
      split
      · rename_i htype
        exact address_differs hremaining hheader (by omega) haccepted htype
      split
      · rename_i herror
        exact error_differs hremaining hheader (by omega) haccepted herror
      · rename_i htype herror
        obtain ⟨f, hf⟩ := skipped_differs response hs hremaining hturns hheader
          (not_or.2 ⟨htype, herror⟩)
        refine ⟨f, fun y t' hrun heq => ?_⟩
        have hinvalid := hf y t' hrun
        rw [heq] at hinvalid
        cases hinvalid
    · rw [if_pos hrefused]
      obtain ⟨f, hf⟩ := refused_differs turns response hremaining hmax
        hrefused (m := (if s.word8 (k + 4) ≠ 0 then k + 5 else k + 6) - 1) (by split <;> omega)
      refine ⟨f, fun y t' hrun heq => ?_⟩
      have hvalid := hf y t' hrun
      rw [heq] at hvalid
      cases hvalid

end Differs

/-! ## Responses -/

namespace Bitstream

variable (stream : Bitstream)

/-- The bytes up to the first one that is not of the cookie. -/
def cookieEnd : Nat :=
  if stream.word8 4 ≠ 0x21 then 5 else if stream.word8 5 ≠ 0x12 then 6
  else if stream.word8 6 ≠ 0xA4 then 7 else 8

/-- The header is followed by a body that is read. -/
def StunBody : Prop :=
  ¬ (stunMsgType (stream.word16 0) ≠ kStunMsgTypeBinding ∨
    stunMsgClass (stream.word16 0) = .request) ∧ stream.word16 2 ≠ 0

instance : Decidable stream.StunBody := inferInstanceAs (Decidable (_ ∧ _))

/-- How many bytes decide what is decoded of a response. -/
def stunNeed : Nat :=
  if stream.word32 4 ≠ kStunProtocolMagicCookie then stream.cookieEnd
  else if stream.StunBody then
    stream.attributesNeed (stream.word16 2).toNat 20 (stream.word16 2).toNat
  else 20

end Bitstream

section Response

variable {s s' t : Bitstream} {n : Nat} {transactionId id : StunTransactionId}
  {response : StunBindingResponse} {y : StunResult × StunTransactionId × StunBindingResponse}

theorem cookie_iff : s.word32 4 = kStunProtocolMagicCookie ↔
    s.word8 4 = 0x21 ∧ s.word8 5 = 0x12 ∧ s.word8 6 = 0xA4 ∧ s.word8 7 = 0x42 := by
  have h₄ := s.word8_lt 4
  have h₅ := s.word8_lt 5
  have h₆ := s.word8_lt 6
  have h₇ := s.word8_lt 7
  have hcookie : kStunProtocolMagicCookie.toNat = 0x2112A442 := rfl
  simp only [← UInt32.toNat_inj, s.word32_toNat, s.word16_toNat, Nat.reduceAdd, hcookie,
    UInt32.reduceToNat]
  omega

theorem stunHeader_foreign (hroom : 20 ≤ s.data.length)
    (hcookie : s.word32 4 ≠ kStunProtocolMagicCookie) :
    stunProtocolUnpackHeader transactionId (s.moveTo 0) =
      some ((.invalid, stunMsgType (s.word16 0), stunMsgClass (s.word16 0), transactionId,
        s.word16 2), s.moveTo 8) := by
  have hlength : bitstreamReadUint16 (s.moveTo 2) = some (s.word16 2, s.moveTo 4) :=
    uint16_at (by omega)
  have hread : bitstreamReadUint32 (s.moveTo 4) = some (s.word32 4, s.moveTo 8) :=
    uint32_at (by omega)
  rw [stunProtocolUnpackHeader, bind_run (uint16_at (by omega)), bind_run hlength, bind_run hread,
    if_pos hcookie]
  rfl

/-- The last byte of the transaction id is stored first. -/
theorem stunHeader_valid (transactionId : StunTransactionId) (hs : s.Sized)
    (hroom : 20 ≤ s.data.length)
    (hcookie : s.word32 4 = kStunProtocolMagicCookie) :
    ∃ id : StunTransactionId, id.id[0]? = s.data[19]? ∧
      stunProtocolUnpackHeader transactionId (s.moveTo 0) = some ((.valid,
        stunMsgType (s.word16 0), stunMsgClass (s.word16 0), id, s.word16 2), s.moveTo 20) := by
  have hlength : bitstreamReadUint16 (s.moveTo 2) = some (s.word16 2, s.moveTo 4) :=
    uint16_at (by omega)
  have hread : bitstreamReadUint32 (s.moveTo 4) = some (s.word32 4, s.moveTo 8) :=
    uint32_at (by omega)
  have hfit : s.enough 8 kStunTransactionIdLen := by
    have := hs.bound
    have := hs.size
    show 12 ≤ (s.bound + 2 ^ 64 - 8) % 2 ^ 64
    omega
  obtain ⟨⟨⟨m, id⟩, s₁⟩, hid⟩ := Option.isSome_iff_exists.1 ((readBytes_isSome transactionId.id
    (show 8 + kStunTransactionIdLen ≤ s.data.length from hroom)).2 fun _ => Nat.le_refl _)
  obtain ⟨-, -, rfl⟩ | ⟨hno, -, -⟩ := readBytes_eq_some hid
  · refine ⟨⟨id⟩, readBytes_first hfit (by decide) hid, ?_⟩
    rw [stunProtocolUnpackHeader, bind_run (uint16_at (by omega)), bind_run hlength,
      bind_run hread, if_neg (not_not_intro hcookie), bind_run hid]
    rfl
  · exact absurd hfit hno

theorem decodeStun_foreign (hroom : 20 ≤ s.data.length)
    (hcookie : s.word32 4 ≠ kStunProtocolMagicCookie) :
    decodeStun transactionId response (s.moveTo 0) =
      some ((.invalid, transactionId, response), s.moveTo 8) := by
  rw [decodeStun, stunProtocolUnpackBindingResponse, bind_run (stunHeader_foreign hroom hcookie)]
  rfl

/-- Without a body the decoder stops behind the header. -/
theorem decodeStun_header (response : StunBindingResponse)
    (hheader : stunProtocolUnpackHeader transactionId (s.moveTo 0) = some ((.valid,
      stunMsgType (s.word16 0), stunMsgClass (s.word16 0), id, s.word16 2), s.moveTo 20))
    (hbody : ¬ s.StunBody) : ∃ result, decodeStun transactionId response (s.moveTo 0) =
      some ((result, id, response), s.moveTo 20) := by
  rw [decodeStun, stunProtocolUnpackBindingResponse, bind_run hheader]
  dsimp only
  rw [if_neg (by decide)]
  by_cases hforeign : stunMsgType (s.word16 0) ≠ kStunMsgTypeBinding ∨
      stunMsgClass (s.word16 0) = .request
  · rw [if_pos hforeign]
    exact ⟨_, rfl⟩
  · rw [if_neg hforeign, if_pos (not_not.1 fun hlength => hbody ⟨hforeign, hlength⟩)]
    exact ⟨_, rfl⟩

/-- What is decoded of the attributes. -/
def stunDecoded (id : StunTransactionId) (x : StunResult × StunBindingResponse) :
    StunResult × StunTransactionId × StunBindingResponse :=
  (if x.1 = .invalid then .invalid else .valid, id, x.2)

theorem decodeStun_body
    (hheader : stunProtocolUnpackHeader transactionId (s.moveTo 0) = some ((.valid,
      stunMsgType (s.word16 0), stunMsgClass (s.word16 0), id, s.word16 2), s.moveTo 20))
    (hbody : s.StunBody) :
    decodeStun transactionId response (s.moveTo 0) = some (y, s') ↔
      ∃ x, stunUnpackAttributes (s.word16 2).toNat (s.word16 2).toNat .zeroed (s.moveTo 20) =
        some (x, s') ∧ y = stunDecoded id x := by
  have hlt := s.word16_lt 2
  have hrun : stunProtocolUnpackBindingResponseBody (s.word16 2) (s.moveTo 20) =
      stunUnpackAttributes (s.word16 2).toNat (s.word16 2).toNat .zeroed (s.moveTo 20) := by
    rw [stunProtocolUnpackBindingResponseBody, stunRemainingBytes_eq, if_pos (by omega)]
  rw [decodeStun, stunProtocolUnpackBindingResponse, bind_run hheader]
  dsimp only
  rw [if_neg (by decide), if_neg hbody.1, if_neg hbody.2]
  constructor
  · intro h
    obtain ⟨⟨result, r⟩, s₁, hx, h⟩ := bind_eq_some h
    refine ⟨(result, r), ?_, ?_⟩ <;> dsimp only at h <;> split at h <;> cases h
    · exact hrun ▸ hx
    · exact hrun ▸ hx
    · rename_i hresult
      rw [stunDecoded, if_pos hresult]
    · rename_i hresult
      rw [stunDecoded, if_neg hresult]
  · rintro ⟨⟨result, r⟩, hx, rfl⟩
    rw [bind_run (hrun.trans hx)]
    dsimp only
    by_cases hresult : result = .invalid
    · rw [stunDecoded, if_pos hresult, if_pos hresult]
      rfl
    · rw [stunDecoded, if_neg hresult, if_neg hresult]
      rfl

/-- The loop gives one of two results, so what is decoded tells what it returned. -/
theorem stunDecoded_inj {turns turns' remaining remaining' : Nat} {r r' : StunBindingResponse}
    {x x' : StunResult × StunBindingResponse} {t' : Bitstream}
    (h : stunUnpackAttributes turns remaining r s = some (x, s'))
    (h' : stunUnpackAttributes turns' remaining' r' t = some (x', t'))
    (heq : stunDecoded id x = stunDecoded id x') : x = x' := by
  obtain ⟨result, a⟩ := x
  obtain ⟨result', a'⟩ := x'
  have hresult := @unpackAttributes_result s s' turns remaining r a result h
  have hresult' := @unpackAttributes_result t t' turns' remaining' r' a' result' h'
  simp only [stunDecoded, Prod.mk.injEq, true_and] at heq
  obtain ⟨hkind, rfl⟩ := heq
  by_cases hi : result = .invalid <;> by_cases hi' : result' = .invalid
  · rw [hi, hi']
  · rw [if_pos hi, if_neg hi'] at hkind
    cases hkind
  · rw [if_neg hi, if_pos hi'] at hkind
    cases hkind
  · rw [hresult hi, hresult' hi']

/-- The bytes up to the first wrong one tell that the cookie is wrong. -/
theorem Alike.cookie (h : Alike n s t) (hn : s.cookieEnd ≤ n)
    (hcookie : s.word32 4 ≠ kStunProtocolMagicCookie) :
    t.word32 4 ≠ kStunProtocolMagicCookie := by
  intro ht
  obtain ⟨h₄, h₅, h₆, h₇⟩ := cookie_iff.1 ht
  rw [Bitstream.cookieEnd] at hn
  refine hcookie (cookie_iff.2 ?_)
  split at hn
  · exact absurd ((h.word8 (by omega)).symm.trans h₄) ‹_›
  split at hn
  · exact absurd ((h.word8 (by omega)).symm.trans h₅) ‹_›
  split at hn
  · exact absurd ((h.word8 (by omega)).symm.trans h₆) ‹_›
  · rw [h.word8 (by omega)] at h₄ h₅ h₆ h₇
    exact ⟨h₄, h₅, h₆, h₇⟩

theorem Alike.stunBody (h : Alike n s t) (hn : 20 ≤ n) (hbody : s.StunBody) : t.StunBody := by
  rw [Bitstream.StunBody, h.word16 (by omega), h.word16 (by omega)]
  exact hbody

/-- A packet with the same header is decoded from its own attributes. -/
theorem Alike.decodeStun_body {t' : Bitstream} (h : Alike n s t) (hn : 20 ≤ n) (hs : s.Sized)
    (hheader : stunProtocolUnpackHeader transactionId (s.moveTo 0) = some ((.valid,
      stunMsgType (s.word16 0), stunMsgClass (s.word16 0), id, s.word16 2), s.moveTo 20))
    (hbody : s.StunBody) :
    decodeStun transactionId response (t.moveTo 0) = some (y, t') ↔
      ∃ x, stunUnpackAttributes (s.word16 2).toNat (s.word16 2).toNat .zeroed (t.moveTo 20) =
        some (x, t') ∧ y = stunDecoded id x := by
  have hword : t.word16 2 = s.word16 2 := h.word16 (by omega)
  have htype : t.word16 0 = s.word16 0 := h.word16 (by omega)
  have hheader' := (local_stunHeader transactionId).alike (s := s.moveTo 0) ⟨hs.bound, hs.size⟩
    (Nat.zero_le _) (h.moveTo 0) hheader hn
  rw [← htype, ← hword] at hheader'
  rw [← hword]
  exact UniversalNetwork.decodeStun_body hheader' (h.stunBody hn hbody)

/-- **The bytes that decide** a response. -/
theorem decodeStun_alike (hs : s.Sized) (hroom : 20 ≤ s.data.length) (h : Alike n s t)
    (hn : s.stunNeed ≤ n)
    (hrun : decodeStun transactionId response (s.moveTo 0) = some (y, s')) :
    ∃ t', decodeStun transactionId response (t.moveTo 0) = some (y, t') := by
  have hroom' : 20 ≤ t.data.length := h.data.1 ▸ hroom
  rw [Bitstream.stunNeed] at hn
  by_cases hcookie : s.word32 4 = kStunProtocolMagicCookie
  · rw [if_neg (not_not_intro hcookie)] at hn
    by_cases hbody : s.StunBody
    · rw [if_pos hbody] at hn
      have hne : (s.word16 2).toNat ≠ 0 := fun hzero => hbody.2 (UInt32.toNat_inj.1 hzero)
      obtain ⟨id, -, hheader⟩ := stunHeader_valid transactionId hs hroom hcookie
      obtain ⟨x, hx, rfl⟩ := (decodeStun_body hheader hbody).1 hrun
      have hlt := lt_attributesNeed hs hne (Nat.le_refl _) hx
      obtain ⟨t', ht'⟩ := unpackAttributes_alike hs h hne (Nat.le_refl _) hn hx
      exact ⟨t', (h.decodeStun_body (by omega) hs hheader hbody).2 ⟨x, ht', rfl⟩⟩
    · rw [if_neg hbody] at hn
      obtain ⟨id, -, hheader⟩ := stunHeader_valid transactionId hs hroom hcookie
      obtain ⟨result, hy⟩ := decodeStun_header response hheader hbody
      rw [hrun] at hy
      cases hy
      exact ⟨_, (local_stun transactionId response).alike (s := s.moveTo 0) ⟨hs.bound, hs.size⟩
        (Nat.zero_le _) (h.moveTo 0) hrun hn⟩
  · rw [if_pos hcookie] at hn
    rw [decodeStun_foreign hroom hcookie] at hrun
    cases hrun
    exact ⟨_, decodeStun_foreign hroom' (h.cookie hn hcookie)⟩

/-- The transaction id that is returned is the one of the header. -/
theorem decodeStun_id (hs : s.Sized) (hroom : 20 ≤ s.data.length)
    (hcookie : s.word32 4 = kStunProtocolMagicCookie)
    (hrun : decodeStun transactionId response (s.moveTo 0) = some (y, s')) :
    y.2.1.id[0]? = s.data[19]? := by
  obtain ⟨id, hid, hheader⟩ := stunHeader_valid transactionId hs hroom hcookie
  by_cases hbody : s.StunBody
  · obtain ⟨x, -, rfl⟩ := (decodeStun_body hheader hbody).1 hrun
    exact hid
  · obtain ⟨result, hy⟩ := decodeStun_header response hheader hbody
    rw [hrun] at hy
    cases hy
    exact hid

/-- The cookie, and then `b`. -/
def cookieThen (b : UInt8) (i : Nat) : UInt8 :=
  if i = 4 then 0x21 else if i = 5 then 0x12 else if i = 6 then 0xA4 else if i = 7 then 0x42 else b

/-- The bytes before the first wrong one are those of the cookie. -/
theorem cookieThen_of_lt (b : UInt8) {i : Nat} (hi : 4 ≤ i) (hend : i + 1 < s.cookieEnd) :
    s.word8 i = (cookieThen b i).toUInt32 := by
  rw [Bitstream.cookieEnd] at hend
  by_cases h₄ : s.word8 4 = 0x21
  · rw [if_neg (not_not_intro h₄)] at hend
    by_cases h₅ : s.word8 5 = 0x12
    · rw [if_neg (not_not_intro h₅)] at hend
      by_cases h₆ : s.word8 6 = 0xA4
      · rw [if_neg (not_not_intro h₆)] at hend
        obtain rfl | rfl | rfl : i = 4 ∨ i = 5 ∨ i = 6 := by omega
        · exact h₄
        · exact h₅
        · exact h₆
      · rw [if_pos h₆] at hend
        obtain rfl | rfl : i = 4 ∨ i = 5 := by omega
        · exact h₄
        · exact h₅
    · rw [if_pos h₅] at hend
      obtain rfl : i = 4 := by omega
      exact h₄
  · rw [if_pos h₄] at hend
    omega

theorem cookieEnd_le (s : Bitstream) : s.cookieEnd ≤ 8 := by
  rw [Bitstream.cookieEnd]
  (repeat' split) <;> omega

theorem cookie_differs (hs : s.Sized) (hroom : 20 ≤ s.data.length) :
    ∃ f, ∀ y t', decodeStun transactionId response ((s.refill (s.cookieEnd - 1) f).moveTo 0) =
      some (y, t') → y ≠ (.invalid, transactionId, response) := by
  obtain ⟨b, hb⟩ : ∃ b, transactionId.id[0]? = some b :=
    ⟨_, Vector.getElem?_eq_getElem (by decide)⟩
  refine ⟨cookieThen (b + 1), fun y t' hrun heq => ?_⟩
  have hst := alike_refill s (s.cookieEnd - 1) (cookieThen (b + 1))
  have hword : ∀ i, s.cookieEnd - 1 ≤ i → i < s.data.length →
      (s.refill (s.cookieEnd - 1) (cookieThen (b + 1))).word8 i =
        (cookieThen (b + 1) i).toUInt32 := fun i hi hlt => word8_refill _ hi hlt
  have hend := cookieEnd_le s
  have hlast : (s.refill (s.cookieEnd - 1) (cookieThen (b + 1))).data[19]? = some (b + 1) :=
    getElem?_refill _ (by omega) (by omega)
  generalize s.refill (s.cookieEnd - 1) (cookieThen (b + 1)) = t at hrun hst hword hlast
  have hbyte : ∀ i, 4 ≤ i → i < s.data.length → t.word8 i = (cookieThen (b + 1) i).toUInt32 := by
    intro i hi hlt
    rcases Nat.lt_or_ge i (s.cookieEnd - 1) with hbefore | hbehind
    · exact (hst.word8 hbefore).trans (cookieThen_of_lt _ hi (by omega))
    · exact hword i hbehind hlt
  have hcookie' : t.word32 4 = kStunProtocolMagicCookie :=
    cookie_iff.2 ⟨hbyte 4 (by omega) (by omega), hbyte 5 (by omega) (by omega),
      hbyte 6 (by omega) (by omega), hbyte 7 (by omega) (by omega)⟩
  have hid := decodeStun_id (hst.sized hs) (hst.data.1 ▸ hroom) hcookie' hrun
  rw [heq, hb, hlast] at hid
  exact UInt8.succ_ne b (Option.some.inj hid).symm

/-- **The bytes that decide** are needed: with another last one of them a response is decoded to
something else. -/
theorem decodeStun_differs (hs : s.Sized) (hroom : 20 ≤ s.data.length)
    (hrun : decodeStun transactionId response (s.moveTo 0) = some (y, s')) :
    ∃ f, ∀ y' t', decodeStun transactionId response ((s.refill (s.stunNeed - 1) f).moveTo 0) =
      some (y', t') → y' ≠ y := by
  rw [Bitstream.stunNeed]
  by_cases hcookie : s.word32 4 = kStunProtocolMagicCookie
  · rw [if_neg (not_not_intro hcookie)]
    by_cases hbody : s.StunBody
    · rw [if_pos hbody]
      have hne : (s.word16 2).toNat ≠ 0 := fun hzero => hbody.2 (UInt32.toNat_inj.1 hzero)
      have hlt := s.word16_lt 2
      obtain ⟨id, -, hheader⟩ := stunHeader_valid transactionId hs hroom hcookie
      obtain ⟨x, hx, rfl⟩ := (decodeStun_body hheader hbody).1 hrun
      have hneed := lt_attributesNeed hs hne (Nat.le_refl _) hx
      obtain ⟨f, hf⟩ := unpackAttributes_differs hs hne (Nat.le_refl _) (by omega) hx
      have hst := alike_refill s
        (s.attributesNeed (s.word16 2).toNat 20 (s.word16 2).toNat - 1) f
      refine ⟨f, fun y' t' hrun' heq => ?_⟩
      generalize s.refill _ f = t at hf hst hrun'
      obtain ⟨x', hx', rfl⟩ := (hst.decodeStun_body (by omega) hs hheader hbody).1 hrun'
      exact hf x' t' hx' (stunDecoded_inj hx' hx heq)
    · rw [if_neg hbody]
      obtain ⟨b, hb⟩ : ∃ b, s.data[19]? = some b := ⟨_, List.getElem?_eq_getElem (by omega)⟩
      have hst := alike_refill s 19 fun _ => b + 1
      have hother : (s.refill 19 fun _ => b + 1).data[19]? = some (b + 1) :=
        getElem?_refill _ (Nat.le_refl _) (by omega)
      refine ⟨fun _ => b + 1, fun y' t' hrun' heq => ?_⟩
      generalize (s.refill 19 fun _ => b + 1) = t at hst hother hrun'
      have hid := decodeStun_id hs hroom hcookie hrun
      have hid' := decodeStun_id (hst.sized hs) (hst.data.1 ▸ hroom)
        ((hst.word32 (by omega)).trans hcookie) hrun'
      rw [heq, hid, hb, hother] at hid'
      exact UInt8.succ_ne b (Option.some.inj hid').symm
  · rw [if_pos hcookie]
    rw [decodeStun_foreign hroom hcookie] at hrun
    cases hrun
    exact cookie_differs hs hroom

/-- **A response is decoded from the received bytes alone** exactly when the bytes that decide it
are received, and the attributes do not lead out of the packet. -/
theorem stun_decodesReceived_iff {data : List UInt8} (hlen : data.length = kNetPacketMaxLen) :
    DecodesReceived n (decodeStun transactionId response) data ↔
      (bitstreamCreate data kNetPacketMaxLen).stunNeed ≤ n ∧
        ResponseInside (bitstreamCreate data kNetPacketMaxLen) := by
  have hs := sized_packet hlen
  have hroom : 20 ≤ (bitstreamCreate data kNetPacketMaxLen).data.length := by
    rw [show (bitstreamCreate data kNetPacketMaxLen).data = data from rfl, hlen]
    decide
  have hinside : (decodeStun transactionId response (bitstreamCreate data kNetPacketMaxLen)).isSome ↔
      ResponseInside (bitstreamCreate data kNetPacketMaxLen) :=
    bindingResponse_isSome_iff ⟨hs, rfl, Nat.zero_le _⟩ rfl
  rw [← hinside, Option.isSome_iff_exists]
  constructor
  · intro h
    obtain ⟨y, hy, -⟩ := h data (agreeOn_refl n data)
    obtain ⟨stream, hrun⟩ := decoded_eq_some.1 hy
    refine ⟨?_, ⟨_, hrun⟩⟩
    by_contra hn
    obtain ⟨f, hf⟩ := decodeStun_differs hs hroom hrun
    have hagree := (alike_refill (bitstreamCreate data kNetPacketMaxLen)
      ((bitstreamCreate data kNetPacketMaxLen).stunNeed - 1) f).data
    have hagree' : AgreeOn n data ((bitstreamCreate data kNetPacketMaxLen).refill
        ((bitstreamCreate data kNetPacketMaxLen).stunNeed - 1) f).data :=
      ⟨hagree.1, fun i hi => hagree.2 i (by omega)⟩
    obtain ⟨y', hy', ht⟩ := h _ hagree'
    obtain ⟨t', hrun'⟩ := decoded_eq_some.1 ht
    exact hf y' t' hrun' (Option.some.inj (hy'.symm.trans hy))
  · rintro ⟨hn, ⟨⟨y, stream⟩, hrun⟩⟩ data' hagree
    obtain ⟨t', hrun'⟩ := decodeStun_alike (t := bitstreamCreate data' kNetPacketMaxLen) hs hroom
      ⟨rfl, rfl, hagree⟩ hn hrun
    exact ⟨y, decoded_eq_some.2 ⟨stream, hrun⟩, decoded_eq_some.2 ⟨t', hrun'⟩⟩

end Response

end UniversalNetwork
