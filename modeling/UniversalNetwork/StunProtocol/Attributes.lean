import UniversalNetwork.Bitstream.Words
import UniversalNetwork.StunProtocol

/-!
# The attributes that the decoder of a body meets

`AttributesAt stream k remaining attributes l`: read from index `k` with `remaining` bytes to go,
the bytes of the stream are these attributes as the loop cuts them, and it stops at index `l`. An
attribute of a known type ends where its reader stops, another one where `bitstream_skip_bytes`
leaves the offset; the declared length is only taken off the remaining bytes.

* `unpackAttribute_valid_iff`: one attribute.
* `unpackAttributes_valid_iff`: the loop is valid exactly on such bytes, and stores what each
  attribute says.
-/

namespace UniversalNetwork

open Lib

/-! ## Skipping -/

namespace Bitstream

/-- The offset after `bitstream_skip_bytes` at index `k`. -/
def skipped (stream : Bitstream) (k length : Nat) : Nat :=
  if stream.enough k length then
    if (k + length) % 2 ^ 64 > stream.bound then stream.bound else (k + length) % 2 ^ 64
  else k

variable (stream : Bitstream) (k length : Nat)

theorem skipBytes_moveTo : bitstreamSkipBytes length (stream.moveTo k) =
    some ((), stream.moveTo (stream.skipped k length)) := by
  rw [bitstreamSkipBytes, skipped]
  by_cases h : stream.enough k length
  · rw [if_pos h, if_pos (show (stream.moveTo k).bytesDoFit length from h)]
    rfl
  · rw [if_neg h, if_neg (show ¬ (stream.moveTo k).bytesDoFit length from h)]

/-- Past the bound the offset is put back to it. -/
theorem skipped_eq_iff {stream : Bitstream} {k length : Nat} (hbound : stream.bound < 2 ^ 64) :
    stream.skipped k length = k + length ↔ k + length ≤ stream.bound := by
  have henough : stream.enough k length ↔
      length ≤ (stream.bound + 2 ^ 64 - k) % 2 ^ 64 := Iff.rfl
  rw [skipped]
  by_cases hk : k + length ≤ stream.bound
  · rw [if_pos (henough.2 (by omega)), Nat.mod_eq_of_lt (by omega), if_neg (by omega)]
    exact iff_of_true rfl hk
  · refine iff_of_false ?_ hk
    split
    · split <;> omega
    · rename_i hno
      rw [henough] at hno
      omega

end Bitstream

/-! ## One attribute -/

/-- The header of an attribute: where it starts and what it declares. -/
structure StunAttribute where
  offset : Nat
  type : UInt32
  length : UInt32
deriving DecidableEq, Repr

/-- MAPPED-ADDRESS and the other types with an address as value. -/
def StunAddressType (type : UInt32) : Prop :=
  type = StunAttributeType.mappedAddress.code ∨ type = StunAttributeType.xorMappedAddress.code ∨
    type = StunAttributeType.alternateServer.code ∨ type = StunAttributeType.otherAddress.code ∨
    type = StunAttributeType.originServer.code

instance (type : UInt32) : Decidable (StunAddressType type) :=
  inferInstanceAs (Decidable (_ ∨ _))

/-- The address type that is left, in the order in which the decoder compares. -/
theorem StunAddressType.origin {type : UInt32} (h : StunAddressType type)
    (hmapped : type ≠ StunAttributeType.mappedAddress.code)
    (hxor : type ≠ StunAttributeType.xorMappedAddress.code)
    (halternate : ¬ (type = StunAttributeType.alternateServer.code ∨
      type = StunAttributeType.otherAddress.code)) :
    type = StunAttributeType.originServer.code := by
  rcases h with h | h | h | h | h
  · exact absurd h hmapped
  · exact absurd h hxor
  · exact absurd (.inl h) halternate
  · exact absurd (.inr h) halternate
  · exact h

namespace Bitstream

variable (stream : Bitstream) (k : Nat)

/-- The address of the value at index `k`. -/
def stunAddr : NetAddr := netAddrSet (stream.word32 (k + 4)) (stream.word16 (k + 2)).toUInt16 true

def stunXorAddr : NetAddr :=
  netAddrSet (stream.word32 (k + 4) ^^^ kStunProtocolMagicCookie)
    (stream.word16 (k + 2) ^^^ ((kStunProtocolMagicCookie >>> 16) &&& 0xFFFF)).toUInt16 true

def stunErrorCode : Int :=
  let n := stream.word32 k >>> 21
  let cls := n &&& (0x07 : UInt32)
  let error := (n >>> 3) &&& (0xFF : UInt32)
  (cls * 100 + error).toNat

end Bitstream

namespace StunAttribute

variable (stream : Bitstream) (a : StunAttribute)

/-- Where the attribute ends by its own length. -/
def declaredEnd : Nat := a.offset + 4 + a.length.toNat

/-- Where the decoder stops. -/
def readEnd : Nat :=
  if StunAddressType a.type then a.offset + 4 + 8
  else if a.type = StunAttributeType.errorCode.code then a.offset + 4 + 4
  else stream.skipped (a.offset + 4) a.length.toNat

/-- An address is one of IPv4, and the value is in the block. -/
structure Accepted : Prop where
  address : StunAddressType a.type →
    stream.word16 (a.offset + 4) = kStunAddrFamilyIPv4 ∧ a.offset + 4 + 8 ≤ stream.data.length
  error : a.type = StunAttributeType.errorCode.code → a.offset + 4 + 4 ≤ stream.data.length

/-- The response with the value of the attribute. -/
def store (response : StunBindingResponse) : StunBindingResponse :=
  if a.type = StunAttributeType.mappedAddress.code then
    { response with
      mappedAddressAddr := stream.stunAddr (a.offset + 4), hasMappedAddress := true }
  else if a.type = StunAttributeType.xorMappedAddress.code then
    { response with
      xorMappedAddressAddr := stream.stunXorAddr (a.offset + 4), hasXorMappedAddress := true }
  else if a.type = StunAttributeType.alternateServer.code ∨
      a.type = StunAttributeType.otherAddress.code then
    { response with
      alternateServerAddr := stream.stunAddr (a.offset + 4), hasAlternateServer := true }
  else if a.type = StunAttributeType.originServer.code then
    { response with
      responseOriginAddr := stream.stunAddr (a.offset + 4), hasResponseOrigin := true }
  else if a.type = StunAttributeType.errorCode.code then
    { response with
      errorCodeValue := stream.stunErrorCode (a.offset + 4), hasErrorCode := true }
  else response

end StunAttribute

section Address

variable {stream stream' : Bitstream} {k : Nat} {addr addr' : NetAddr}

/-- The reader of an address, which makes `addrOf port host` of the value. -/
def unpackIPv4 (addrOf : UInt32 → UInt32 → NetAddr) (addr : NetAddr) :
    BitM (StunResult × NetAddr) := do
  let addrFamily ← bitstreamReadUint16
  if addrFamily ≠ kStunAddrFamilyIPv4 then
    return (.unsupported, addr)
  let port ← bitstreamReadUint16
  let host ← bitstreamReadUint32
  return (.valid, addrOf port host)

theorem unpackIPv4_valid_iff {addrOf : UInt32 → UInt32 → NetAddr} :
    unpackIPv4 addrOf addr (stream.moveTo k) = some ((.valid, addr'), stream') ↔
      (stream.word16 k = kStunAddrFamilyIPv4 ∧ k + 8 ≤ stream.data.length) ∧
        addr' = addrOf (stream.word16 (k + 2)) (stream.word32 (k + 4)) ∧
        stream' = stream.moveTo (k + 8) := by
  constructor
  · intro h
    obtain ⟨addrFamily, s₁, hfamily, h⟩ := bind_eq_some h
    obtain ⟨rfl, rfl⟩ := uint16_eq_some hfamily
    split at h
    · cases h
    rename_i hipv4
    obtain ⟨port, s₂, hport, h⟩ := bind_eq_some h
    obtain ⟨rfl, rfl⟩ := uint16_eq_some hport
    obtain ⟨host, s₃, hhost, h⟩ := bind_eq_some h
    have hroom := (fixed_uint32.isSome _).1 (Option.isSome_iff_exists.2 ⟨_, hhost⟩)
    obtain ⟨rfl, rfl⟩ := uint32_eq_some hhost
    cases h
    exact ⟨⟨not_not.1 hipv4, hroom⟩, rfl, rfl⟩
  · rintro ⟨⟨hipv4, hroom⟩, rfl, rfl⟩
    rw [unpackIPv4, bind_run (uint16_at (by omega)), if_neg (not_not_intro hipv4),
      bind_run (uint16_at (by omega)), bind_run (uint32_at (by omega))]
    rfl

theorem unpackAddr_valid_iff :
    stunProtocolUnpackAttributeAddr addr (stream.moveTo k) = some ((.valid, addr'), stream') ↔
      (stream.word16 k = kStunAddrFamilyIPv4 ∧ k + 8 ≤ stream.data.length) ∧
        addr' = stream.stunAddr k ∧ stream' = stream.moveTo (k + 8) :=
  unpackIPv4_valid_iff

theorem unpackXorAddr_valid_iff :
    stunProtocolUnpackAttributeXorAddr addr (stream.moveTo k) = some ((.valid, addr'), stream') ↔
      (stream.word16 k = kStunAddrFamilyIPv4 ∧ k + 8 ≤ stream.data.length) ∧
        addr' = stream.stunXorAddr k ∧ stream' = stream.moveTo (k + 8) :=
  unpackIPv4_valid_iff

theorem unpackError_valid_iff {value : Int} :
    stunProtocolUnpackAttributeError (stream.moveTo k) = some ((.valid, value), stream') ↔
      k + 4 ≤ stream.data.length ∧ value = stream.stunErrorCode k ∧
        stream' = stream.moveTo (k + 4) := by
  constructor
  · intro h
    obtain ⟨n, s₁, hn, h⟩ := bind_eq_some h
    have hroom := (fixed_uint32.isSome _).1 (Option.isSome_iff_exists.2 ⟨_, hn⟩)
    obtain ⟨rfl, rfl⟩ := uint32_eq_some hn
    cases h
    exact ⟨hroom, rfl, rfl⟩
  · rintro ⟨hroom, rfl, rfl⟩
    rw [stunProtocolUnpackAttributeError, bind_run (uint32_at hroom)]
    rfl

end Address

section Attribute

variable {stream stream' : Bitstream} {response response' : StunBindingResponse}

/-- The reader of a value, then the response with what it gives. -/
theorem storeValue_valid_iff {α : Type} {reader : BitM (StunResult × α)} {P : Prop} {value : α}
    {k l : Nat} (f : α → StunBindingResponse)
    (hreader : ∀ {x : α} {stream' : Bitstream}, reader (stream.moveTo k) =
      some ((.valid, x), stream') ↔ P ∧ x = value ∧ stream' = stream.moveTo l) :
    (do
      let (result, x) ← reader
      if result ≠ .valid then
        return (.invalid, response)
      return (.valid, f x) : BitM (StunResult × StunBindingResponse)) (stream.moveTo k) =
      some ((.valid, response'), stream') ↔
    P ∧ response' = f value ∧ stream' = stream.moveTo l := by
  constructor
  · intro h
    obtain ⟨⟨result, x⟩, s, hx, h⟩ := bind_eq_some h
    dsimp only at h
    split at h
    · cases h
    rename_i hresult
    cases h
    rw [not_not.1 hresult] at hx
    obtain ⟨hP, rfl, rfl⟩ := hreader.1 hx
    exact ⟨hP, rfl, rfl⟩
  · rintro ⟨hP, rfl, rfl⟩
    rw [bind_run (hreader.2 ⟨hP, rfl, rfl⟩)]
    rfl

theorem unpackAttribute_valid_iff (a : StunAttribute) :
    stunUnpackAttribute a.type a.length response (stream.moveTo (a.offset + 4)) =
      some ((.valid, response'), stream') ↔
    a.Accepted stream ∧ response' = a.store stream response ∧
      stream' = stream.moveTo (a.readEnd stream) := by
  obtain ⟨k, type, length⟩ := a
  have haddress : StunAddressType type → ¬ type = StunAttributeType.errorCode.code →
      ((StunAttribute.mk k type length).Accepted stream ↔
        stream.word16 (k + 4) = kStunAddrFamilyIPv4 ∧ k + 4 + 8 ≤ stream.data.length) :=
    fun h herror => ⟨fun h' => h'.address h, fun h' => ⟨fun _ => h', fun h'' => absurd h'' herror⟩⟩
  by_cases hmapped : type = StunAttributeType.mappedAddress.code
  · have htype : StunAddressType type := .inl hmapped
    rw [haddress htype (by rw [hmapped]; decide), StunAttribute.readEnd, if_pos htype,
      StunAttribute.store, if_pos hmapped, stunUnpackAttribute, if_pos hmapped]
    exact storeValue_valid_iff
      (fun addr => { response with mappedAddressAddr := addr, hasMappedAddress := true })
      unpackAddr_valid_iff
  by_cases hxor : type = StunAttributeType.xorMappedAddress.code
  · have htype : StunAddressType type := .inr (.inl hxor)
    rw [haddress htype (by rw [hxor]; decide), StunAttribute.readEnd, if_pos htype,
      StunAttribute.store, if_neg hmapped, if_pos hxor, stunUnpackAttribute, if_neg hmapped,
      if_pos hxor]
    exact storeValue_valid_iff
      (fun addr => { response with xorMappedAddressAddr := addr, hasXorMappedAddress := true })
      unpackXorAddr_valid_iff
  by_cases halternate : type = StunAttributeType.alternateServer.code ∨
      type = StunAttributeType.otherAddress.code
  · have htype : StunAddressType type := .inr (.inr (by tauto))
    rw [haddress htype (by rcases halternate with h | h <;> rw [h] <;> decide),
      StunAttribute.readEnd, if_pos htype, StunAttribute.store, if_neg hmapped, if_neg hxor,
      if_pos halternate, stunUnpackAttribute, if_neg hmapped, if_neg hxor, if_pos halternate]
    exact storeValue_valid_iff
      (fun addr => { response with alternateServerAddr := addr, hasAlternateServer := true })
      unpackAddr_valid_iff
  by_cases horigin : type = StunAttributeType.originServer.code
  · have htype : StunAddressType type := .inr (.inr (.inr (.inr horigin)))
    rw [haddress htype (by rw [horigin]; decide), StunAttribute.readEnd, if_pos htype,
      StunAttribute.store, if_neg hmapped, if_neg hxor, if_neg halternate, if_pos horigin,
      stunUnpackAttribute, if_neg hmapped, if_neg hxor, if_neg halternate, if_pos horigin]
    exact storeValue_valid_iff
      (fun addr => { response with responseOriginAddr := addr, hasResponseOrigin := true })
      unpackAddr_valid_iff
  have htype : ¬ StunAddressType type := fun h => horigin (h.origin hmapped hxor halternate)
  by_cases herror : type = StunAttributeType.errorCode.code
  · have haccepted : (StunAttribute.mk k type length).Accepted stream ↔
        k + 4 + 4 ≤ stream.data.length :=
      ⟨fun h => h.error herror, fun h => ⟨fun h' => absurd h' htype, fun _ => h⟩⟩
    rw [haccepted, StunAttribute.readEnd, if_neg htype, if_pos herror, StunAttribute.store,
      if_neg hmapped, if_neg hxor, if_neg halternate, if_neg horigin, if_pos herror,
      stunUnpackAttribute, if_neg hmapped, if_neg hxor, if_neg halternate, if_neg horigin,
      if_pos herror]
    exact storeValue_valid_iff
      (fun value => { response with errorCodeValue := value, hasErrorCode := true })
      unpackError_valid_iff
  · have haccepted : (StunAttribute.mk k type length).Accepted stream :=
      ⟨fun h => absurd h htype, fun h => absurd h herror⟩
    rw [StunAttribute.readEnd, if_neg htype, if_neg herror, StunAttribute.store,
      if_neg hmapped, if_neg hxor, if_neg halternate, if_neg horigin, if_neg herror,
      stunUnpackAttribute, if_neg hmapped, if_neg hxor, if_neg halternate, if_neg horigin,
      if_neg herror, bind_run (stream.skipBytes_moveTo _ _)]
    simp only [haccepted, true_and]
    constructor
    · intro h
      cases h
      exact ⟨rfl, rfl⟩
    · rintro ⟨rfl, rfl⟩
      rfl

end Attribute

/-! ## The loop -/

theorem stunRemainingBytes_eq (length : UInt32) :
    stunRemainingBytes length = if length.toNat < 2 ^ 31 then length.toNat else 0 := by
  have hint : length.toInt32.toInt = length.toBitVec.toInt := rfl
  have hnat : length.toBitVec.toNat = length.toNat := rfl
  have hlt := length.toNat_lt
  rw [stunRemainingBytes, hint, BitVec.toInt_eq_toNat_cond, hnat]
  split <;> split <;> omega

/-- The header at index `k`. -/
def Bitstream.attributeAt (stream : Bitstream) (k : Nat) : StunAttribute :=
  ⟨k, stream.word16 k, stream.word16 (k + 2)⟩

inductive AttributesAt (stream : Bitstream) : Nat → Nat → List StunAttribute → Nat → Prop
  | done {k : Nat} : AttributesAt stream k 0 [] k
  | next {k remaining l : Nat} {attributes : List StunAttribute} (hremaining : remaining ≠ 0)
    (hheader : k + 4 ≤ stream.data.length) (haccepted : (stream.attributeAt k).Accepted stream)
    (hrest : AttributesAt stream ((stream.attributeAt k).readEnd stream)
      (remaining - (stream.attributeAt k).length.toNat - 4) attributes l) :
    AttributesAt stream k remaining (stream.attributeAt k :: attributes) l

def storeAttributes (stream : Bitstream) (attributes : List StunAttribute)
    (response : StunBindingResponse) : StunBindingResponse :=
  attributes.foldl (fun response a => a.store stream response) response

section Loop

variable {stream stream' : Bitstream} {response response' : StunBindingResponse}

/-- The value of an attribute that is accepted. -/
theorem unpackAttribute_at {k : Nat} (haccepted : (stream.attributeAt k).Accepted stream) :
    stunUnpackAttribute (stream.word16 k) (stream.word16 (k + 2)) response
      (stream.moveTo (k + 4)) = some ((.valid, (stream.attributeAt k).store stream response),
        stream.moveTo ((stream.attributeAt k).readEnd stream)) :=
  (unpackAttribute_valid_iff (stream.attributeAt k)).2 ⟨haccepted, rfl, rfl⟩

/-- A turn on an attribute that is accepted. -/
theorem unpackAttributes_turn {turns remaining k : Nat} (hremaining : remaining ≠ 0)
    (hheader : k + 4 ≤ stream.data.length) (haccepted : (stream.attributeAt k).Accepted stream) :
    stunUnpackAttributes (turns + 1) remaining response (stream.moveTo k) =
      stunUnpackAttributes turns (remaining - (stream.attributeAt k).length.toNat - 4)
        ((stream.attributeAt k).store stream response)
        (stream.moveTo ((stream.attributeAt k).readEnd stream)) := by
  have hlength : bitstreamReadUint16 (stream.moveTo (k + 2)) =
      some (stream.word16 (k + 2), stream.moveTo (k + 4)) := uint16_at hheader
  rw [stunUnpackAttributes, if_neg hremaining, bind_run (uint16_at (by omega)), bind_run hlength,
    bind_run (unpackAttribute_at haccepted)]
  rfl

/-- One turn: the header, the value, and what is left of the loop. -/
theorem unpackAttributes_succ_valid_iff {turns remaining k : Nat} (hremaining : remaining ≠ 0) :
    stunUnpackAttributes (turns + 1) remaining response (stream.moveTo k) =
      some ((.valid, response'), stream') ↔
    k + 4 ≤ stream.data.length ∧ (stream.attributeAt k).Accepted stream ∧
      stunUnpackAttributes turns (remaining - (stream.attributeAt k).length.toNat - 4)
        ((stream.attributeAt k).store stream response)
        (stream.moveTo ((stream.attributeAt k).readEnd stream)) =
      some ((.valid, response'), stream') := by
  constructor
  · intro h
    rw [stunUnpackAttributes, if_neg hremaining] at h
    obtain ⟨type, s₁, htype, h⟩ := bind_eq_some h
    obtain ⟨rfl, rfl⟩ := uint16_eq_some htype
    obtain ⟨length, s₂, hlength, h⟩ := bind_eq_some h
    have hheader := (fixed_uint16.isSome _).1 (Option.isSome_iff_exists.2 ⟨_, hlength⟩)
    obtain ⟨rfl, rfl⟩ := uint16_eq_some hlength
    obtain ⟨⟨result, r⟩, s₃, hvalue, h⟩ := bind_eq_some h
    dsimp only at h
    split at h
    · cases h
    rename_i hresult
    rw [not_not.1 hresult] at hvalue
    obtain ⟨haccepted, rfl, rfl⟩ :=
      (unpackAttribute_valid_iff (stream.attributeAt k)).1 hvalue
    exact ⟨hheader, haccepted, h⟩
  · rintro ⟨hheader, haccepted, h⟩
    rw [unpackAttributes_turn hremaining hheader haccepted, h]

theorem attributesAt_zero_iff {k l : Nat} {attributes : List StunAttribute} :
    AttributesAt stream k 0 attributes l ↔ attributes = [] ∧ l = k := by
  constructor
  · intro h
    cases h with
    | done => exact ⟨rfl, rfl⟩
    | next hremaining _ _ _ => exact absurd rfl hremaining
  · rintro ⟨rfl, rfl⟩
    exact .done

/-- With nothing left the loop ends, whatever number of turns it may still take. -/
theorem unpackAttributes_zero_valid_iff {turns k : Nat} :
    stunUnpackAttributes turns 0 response (stream.moveTo k) =
      some ((.valid, response'), stream') ↔
    ∃ attributes l, AttributesAt stream k 0 attributes l ∧
      response' = storeAttributes stream attributes response ∧ stream' = stream.moveTo l := by
  have hdone : stunUnpackAttributes turns 0 response (stream.moveTo k) =
      some ((.valid, response), stream.moveTo k) := by
    cases turns <;> rfl
  rw [hdone]
  constructor
  · intro h
    cases h
    exact ⟨[], k, .done, rfl, rfl⟩
  · rintro ⟨attributes, l, hat, rfl, rfl⟩
    obtain ⟨rfl, rfl⟩ := attributesAt_zero_iff.1 hat
    rfl

/-- **The loop is valid on these bytes alone.** -/
theorem unpackAttributes_valid_iff {turns remaining k : Nat} (hturns : remaining ≤ turns) :
    stunUnpackAttributes turns remaining response (stream.moveTo k) =
      some ((.valid, response'), stream') ↔
    ∃ attributes l, AttributesAt stream k remaining attributes l ∧
      response' = storeAttributes stream attributes response ∧ stream' = stream.moveTo l := by
  induction turns generalizing remaining k response with
  | zero =>
    obtain rfl : remaining = 0 := by omega
    exact unpackAttributes_zero_valid_iff
  | succ turns ih =>
    by_cases hremaining : remaining = 0
    · subst hremaining
      exact unpackAttributes_zero_valid_iff
    rw [unpackAttributes_succ_valid_iff hremaining, ih (by omega)]
    constructor
    · rintro ⟨hheader, haccepted, attributes, l, hrest, rfl, rfl⟩
      exact ⟨_, l, .next hremaining hheader haccepted hrest, rfl, rfl⟩
    · rintro ⟨attributes, l, hat, rfl, rfl⟩
      cases hat with
      | done => exact absurd rfl hremaining
      | next _ hheader haccepted hrest =>
        exact ⟨hheader, haccepted, _, l, hrest, rfl, rfl⟩

end Loop

end UniversalNetwork
