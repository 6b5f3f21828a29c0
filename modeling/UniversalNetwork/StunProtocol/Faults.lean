import UniversalNetwork.StunProtocol.Framing
import UniversalNetwork.StunProtocol.Message

/-!
# Faults of the decoder of a response

The loop over the attributes goes on as long as declared bytes remain, and the readers of headers,
addresses and error codes do not test the bound. So a response can lead the decoder out of its
packet: with a body that is declared longer than the packet, but also with attributes that declare
less than is read of them.

`Meets stream k remaining k' remaining'`: the loop that starts at index `k` comes to index `k'` with
`remaining'` bytes to go.

* `unpackAttributes_isSome_iff`: the loop stays inside exactly when what is read of each attribute
  that it meets is inside.
* `bindingResponse_isSome_iff`: so for a response.
* `WellDeclared.inside`: attributes that declare what is read of them never lead out of a packet
  that has the whole body.
-/

namespace UniversalNetwork

open Lib

/-! ## One attribute -/

/-- What the decoder reads of the attribute is in the block. -/
structure StunAttribute.Inside (stream : Bitstream) (a : StunAttribute) : Prop where
  header : a.offset + 4 ≤ stream.data.length
  family : StunAddressType a.type → a.offset + 4 + 2 ≤ stream.data.length
  address : StunAddressType a.type → stream.word16 (a.offset + 4) = kStunAddrFamilyIPv4 →
    a.offset + 4 + 8 ≤ stream.data.length
  error : a.type = StunAttributeType.errorCode.code → a.offset + 4 + 4 ≤ stream.data.length

section Attribute

variable {stream : Bitstream} {k : Nat} {response : StunBindingResponse}

theorem unpackIPv4_isSome_iff {addrOf : UInt32 → UInt32 → NetAddr} {addr : NetAddr} :
    (unpackIPv4 addrOf addr (stream.moveTo k)).isSome ↔ k + 2 ≤ stream.data.length ∧
      (stream.word16 k = kStunAddrFamilyIPv4 → k + 8 ≤ stream.data.length) := by
  by_cases hfamily : k + 2 ≤ stream.data.length
  · rw [unpackIPv4, bind_run (uint16_at hfamily), and_iff_right hfamily]
    by_cases hipv4 : stream.word16 k = kStunAddrFamilyIPv4
    · have hfixed : Fixed 6 (do
          let port ← bitstreamReadUint16
          let host ← bitstreamReadUint32
          return (.valid, addrOf port host) : BitM (StunResult × NetAddr)) :=
        fixed_uint16.bind (v := 4) fun port =>
          fixed_uint32.map fun host => (StunResult.valid, addrOf port host)
      rw [if_neg (not_not_intro hipv4), hfixed.isSome, Bitstream.offset_moveTo,
        Bitstream.data_moveTo]
      exact ⟨fun h _ => h, fun h => h hipv4⟩
    · rw [if_pos hipv4]
      exact iff_of_true rfl fun h => absurd h hipv4
  · refine iff_of_false (fun h => hfamily ?_) fun h => hfamily h.1
    obtain ⟨x, s, hx, -⟩ := isSome_bind.1 h
    exact (fixed_uint16.isSome (stream.moveTo k)).1 (by rw [hx]; rfl)

theorem unpackError_isSome_iff :
    (stunProtocolUnpackAttributeError (stream.moveTo k)).isSome ↔ k + 4 ≤ stream.data.length :=
  ((fixed_uint32.map _).isSome (stream.moveTo k) :)

/-- After the reader of a value nothing faults. -/
theorem storeValue_isSome {α : Type} {reader : BitM (StunResult × α)}
    (f : α → StunBindingResponse) :
    ((do
      let (result, x) ← reader
      if result ≠ .valid then
        return (.invalid, response)
      return (.valid, f x) : BitM (StunResult × StunBindingResponse)) stream).isSome ↔
    (reader stream).isSome := by
  rw [isSome_bind, Option.isSome_iff_exists]
  constructor
  · rintro ⟨x, s, hx, -⟩
    exact ⟨_, hx⟩
  · rintro ⟨⟨x, s⟩, hx⟩
    refine ⟨x, s, hx, ?_⟩
    dsimp only
    split <;> rfl

theorem StunAttribute.inside_iff_address {a : StunAttribute} (htype : StunAddressType a.type) :
    a.Inside stream ↔ a.offset + 4 ≤ stream.data.length ∧
      a.offset + 4 + 2 ≤ stream.data.length ∧ (stream.word16 (a.offset + 4) =
        kStunAddrFamilyIPv4 → a.offset + 4 + 8 ≤ stream.data.length) :=
  ⟨fun h => ⟨h.header, h.family htype, h.address htype⟩, fun ⟨hheader, hfamily, haddress⟩ =>
    ⟨hheader, fun _ => hfamily, fun _ => haddress, fun herror =>
      absurd (herror ▸ htype) not_addressType_error⟩⟩

/-- The value of an attribute whose header is in the block. -/
theorem unpackAttribute_isSome_iff (a : StunAttribute)
    (hheader : a.offset + 4 ≤ stream.data.length) :
    (stunUnpackAttribute a.type a.length response (stream.moveTo (a.offset + 4))).isSome ↔
      a.Inside stream := by
  have haddress : StunAddressType a.type → (a.Inside stream ↔
      a.offset + 4 + 2 ≤ stream.data.length ∧ (stream.word16 (a.offset + 4) =
        kStunAddrFamilyIPv4 → a.offset + 4 + 8 ≤ stream.data.length)) :=
    fun htype => (StunAttribute.inside_iff_address htype).trans (and_iff_right hheader)
  by_cases hmapped : a.type = StunAttributeType.mappedAddress.code
  · rw [stunUnpackAttribute, if_pos hmapped, haddress (.inl hmapped)]
    exact (storeValue_isSome fun addr =>
      { response with mappedAddressAddr := addr, hasMappedAddress := true }).trans
      unpackIPv4_isSome_iff
  by_cases hxor : a.type = StunAttributeType.xorMappedAddress.code
  · rw [stunUnpackAttribute, if_neg hmapped, if_pos hxor, haddress (.inr (.inl hxor))]
    exact (storeValue_isSome fun addr =>
      { response with xorMappedAddressAddr := addr, hasXorMappedAddress := true }).trans
      unpackIPv4_isSome_iff
  by_cases halternate : a.type = StunAttributeType.alternateServer.code ∨
      a.type = StunAttributeType.otherAddress.code
  · rw [stunUnpackAttribute, if_neg hmapped, if_neg hxor, if_pos halternate,
      haddress (.inr (.inr (by tauto)))]
    exact (storeValue_isSome fun addr =>
      { response with alternateServerAddr := addr, hasAlternateServer := true }).trans
      unpackIPv4_isSome_iff
  by_cases horigin : a.type = StunAttributeType.originServer.code
  · rw [stunUnpackAttribute, if_neg hmapped, if_neg hxor, if_neg halternate, if_pos horigin,
      haddress (.inr (.inr (.inr (.inr horigin))))]
    exact (storeValue_isSome fun addr =>
      { response with responseOriginAddr := addr, hasResponseOrigin := true }).trans
      unpackIPv4_isSome_iff
  have htype : ¬ StunAddressType a.type := fun h => horigin (h.origin hmapped hxor halternate)
  by_cases herror : a.type = StunAttributeType.errorCode.code
  · rw [stunUnpackAttribute, if_neg hmapped, if_neg hxor, if_neg halternate, if_neg horigin,
      if_pos herror]
    refine ((storeValue_isSome fun value =>
      { response with errorCodeValue := value, hasErrorCode := true }).trans
      unpackError_isSome_iff).trans ?_
    exact ⟨fun h => ⟨hheader, fun h' => absurd h' htype, fun h' => absurd h' htype, fun _ => h⟩,
      fun h => h.error herror⟩
  · rw [stunUnpackAttribute, if_neg hmapped, if_neg hxor, if_neg halternate, if_neg horigin,
      if_neg herror, bind_run (stream.skipBytes_moveTo _ _)]
    exact iff_of_true rfl ⟨hheader, fun h' => absurd h' htype, fun h' => absurd h' htype,
      fun h' => absurd h' herror⟩

end Attribute

/-! ## The loop -/

inductive Meets (stream : Bitstream) (k remaining : Nat) : Nat → Nat → Prop
  | start : Meets stream k remaining k remaining
  | turn {k' remaining' : Nat} (hmeets : Meets stream k remaining k' remaining')
    (hremaining : remaining' ≠ 0) (haccepted : (stream.attributeAt k').Accepted stream) :
    Meets stream k remaining ((stream.attributeAt k').readEnd stream)
      (remaining' - (stream.attributeAt k').length.toNat - 4)

/-- What is read of the attributes is in the block. -/
def AttributesInside (stream : Bitstream) (k remaining : Nat) : Prop :=
  ∀ k' remaining', Meets stream k remaining k' remaining' → remaining' ≠ 0 →
    (stream.attributeAt k').Inside stream

section Loop

variable {stream : Bitstream} {k remaining : Nat} {response : StunBindingResponse}

/-- What the loop meets after its first turn. -/
theorem Meets.after {k' remaining' : Nat} (hremaining : remaining ≠ 0)
    (haccepted : (stream.attributeAt k).Accepted stream)
    (h : Meets stream ((stream.attributeAt k).readEnd stream)
      (remaining - (stream.attributeAt k).length.toNat - 4) k' remaining') :
    Meets stream k remaining k' remaining' := by
  induction h with
  | start => exact .turn .start hremaining haccepted
  | turn _ hremaining haccepted ih => exact .turn ih hremaining haccepted

theorem Meets.cases_first {k' remaining' : Nat} (h : Meets stream k remaining k' remaining') :
    (k' = k ∧ remaining' = remaining) ∨
      (remaining ≠ 0 ∧ (stream.attributeAt k).Accepted stream ∧
        Meets stream ((stream.attributeAt k).readEnd stream)
          (remaining - (stream.attributeAt k).length.toNat - 4) k' remaining') := by
  induction h with
  | start => exact .inl ⟨rfl, rfl⟩
  | turn _ hremaining haccepted ih =>
    rcases ih with ⟨rfl, rfl⟩ | ⟨hfirst, haccepted', hmeets⟩
    · exact .inr ⟨hremaining, haccepted, .start⟩
    · exact .inr ⟨hfirst, haccepted', .turn hmeets hremaining haccepted⟩

theorem attributesInside_zero : AttributesInside stream k 0 := by
  intro k' remaining' hmeets hremaining
  rcases hmeets.cases_first with ⟨-, rfl⟩ | ⟨hne, -⟩
  · exact absurd rfl hremaining
  · exact absurd rfl hne

/-- The first attribute, and those after it when it is accepted. -/
theorem attributesInside_iff (hremaining : remaining ≠ 0) : AttributesInside stream k remaining ↔
    (stream.attributeAt k).Inside stream ∧ ((stream.attributeAt k).Accepted stream →
      AttributesInside stream ((stream.attributeAt k).readEnd stream)
        (remaining - (stream.attributeAt k).length.toNat - 4)) := by
  constructor
  · intro h
    exact ⟨h k remaining .start hremaining, fun haccepted k' remaining' hmeets =>
      h k' remaining' (hmeets.after hremaining haccepted)⟩
  · rintro ⟨hfirst, hrest⟩ k' remaining' hmeets hne
    rcases hmeets.cases_first with ⟨rfl, rfl⟩ | ⟨-, haccepted, hmeets⟩
    · exact hfirst
    · exact hrest haccepted k' remaining' hmeets hne

/-- One turn of the loop. -/
theorem unpackAttributes_succ_isSome {turns : Nat} (hremaining : remaining ≠ 0) :
    (stunUnpackAttributes (turns + 1) remaining response (stream.moveTo k)).isSome ↔
      (stream.attributeAt k).Inside stream ∧ ((stream.attributeAt k).Accepted stream →
        (stunUnpackAttributes turns (remaining - (stream.attributeAt k).length.toNat - 4)
          ((stream.attributeAt k).store stream response)
          (stream.moveTo ((stream.attributeAt k).readEnd stream))).isSome) := by
  by_cases hheader : k + 4 ≤ stream.data.length
  · by_cases haccepted : (stream.attributeAt k).Accepted stream
    · have hinside : (stream.attributeAt k).Inside stream :=
        ⟨hheader, fun htype => by have := (haccepted.address htype).2; omega,
          fun htype _ => (haccepted.address htype).2, haccepted.error⟩
      rw [unpackAttributes_turn hremaining hheader haccepted]
      exact ⟨fun h => ⟨hinside, fun _ => h⟩, fun h => h.2 haccepted⟩
    · have hlength : bitstreamReadUint16 (stream.moveTo (k + 2)) =
          some (stream.word16 (k + 2), stream.moveTo (k + 4)) := uint16_at hheader
      have hvalue := @unpackAttribute_isSome_iff stream response (stream.attributeAt k) hheader
      rw [and_iff_left fun h => absurd h haccepted, ← hvalue, stunUnpackAttributes,
        if_neg hremaining, bind_run (uint16_at (by omega)), bind_run hlength, isSome_bind,
        Option.isSome_iff_exists]
      constructor
      · rintro ⟨x, s, hx, -⟩
        exact ⟨_, hx⟩
      · rintro ⟨⟨⟨result, r⟩, s⟩, hx⟩
        refine ⟨_, s, hx, ?_⟩
        -- what is not accepted is not valid
        have hresult : result ≠ .valid := by
          rintro rfl
          exact haccepted ((unpackAttribute_valid_iff (stream.attributeAt k)).1 hx).1
        dsimp only
        rw [if_pos hresult]
        rfl
  · refine iff_of_false (fun h => hheader ?_) fun h => hheader h.1.header
    rw [stunUnpackAttributes, if_neg hremaining] at h
    obtain ⟨type, s₁, htype, h⟩ := isSome_bind.1 h
    obtain ⟨rfl, rfl⟩ := uint16_eq_some htype
    obtain ⟨length, s₂, hlength, -⟩ := isSome_bind.1 h
    exact (fixed_uint16.isSome _).1 (Option.isSome_iff_exists.2 ⟨_, hlength⟩)

/-- **The loop stays inside** exactly when what is read of each attribute that it meets is. -/
theorem unpackAttributes_isSome_iff {turns : Nat} (hturns : remaining ≤ turns) :
    (stunUnpackAttributes turns remaining response (stream.moveTo k)).isSome ↔
      AttributesInside stream k remaining := by
  induction turns generalizing remaining k response with
  | zero =>
    obtain rfl : remaining = 0 := by omega
    exact iff_of_true rfl attributesInside_zero
  | succ turns ih =>
    by_cases hremaining : remaining = 0
    · subst hremaining
      exact iff_of_true rfl attributesInside_zero
    · rw [unpackAttributes_succ_isSome hremaining, ih (by omega), attributesInside_iff hremaining]

/-- Attributes that declare what is read of them are met where they declare to be. -/
theorem Meets.declared (hbound : stream.bound < 2 ^ 64) {k' remaining' : Nat}
    (hmeets : Meets stream k remaining k' remaining') {declared : List StunAttribute}
    (hchain : Chained k declared (k + remaining)) (hall : ∀ a ∈ declared, a.Declares stream) :
    k' + remaining' = k + remaining ∧ ∃ rest, Chained k' rest (k' + remaining') ∧
      ∀ a ∈ rest, a.Declares stream := by
  induction hmeets with
  | start => exact ⟨rfl, declared, hchain, hall⟩
  | @turn k' remaining' _ hremaining haccepted ih =>
    obtain ⟨hsum, rest, hrest, hdeclares⟩ := ih
    cases rest with
    | nil =>
      have hend : k' = k' + remaining' := hrest
      omega
    | cons a rest =>
      obtain ⟨ha, hothers⟩ := List.forall_mem_cons.1 hdeclares
      obtain ⟨hoffset, hrest⟩ := hrest
      obtain rfl : a = stream.attributeAt k' := hoffset ▸ ha.header
      have hend := (StunAttribute.declares_iff hbound k').1 ha
      have hlength : (stream.attributeAt k').declaredEnd =
          k' + 4 + (stream.attributeAt k').length.toNat := rfl
      have hle := hrest.le
      have hnext : (stream.attributeAt k').declaredEnd +
          (remaining' - (stream.attributeAt k').length.toNat - 4) = k' + remaining' := by omega
      rw [hend]
      refine ⟨hnext.trans hsum, rest, ?_, hothers⟩
      rw [hnext]
      exact hrest

/-- **A body whose attributes declare what is read of them** is read inside a packet that has all of
it. -/
theorem WellDeclared.inside {length : UInt32} (hbound : stream.bound < 2 ^ 64)
    (h : WellDeclared stream length)
    (hfits : stream.offset + length.toNat ≤ stream.data.length) :
    AttributesInside stream stream.offset length.toNat := by
  obtain ⟨-, declared, hchain, hall⟩ := h
  intro k' remaining' hmeets hremaining
  obtain ⟨hsum, rest, hrest, hdeclares⟩ := hmeets.declared hbound hchain hall
  cases rest with
  | nil =>
    have hend : k' = k' + remaining' := hrest
    omega
  | cons a rest =>
    obtain ⟨ha, -⟩ := List.forall_mem_cons.1 hdeclares
    obtain ⟨hoffset, hrest⟩ := hrest
    obtain rfl : a = stream.attributeAt k' := hoffset ▸ ha.header
    have hlength : (stream.attributeAt k').declaredEnd =
        k' + 4 + (stream.attributeAt k').length.toNat := rfl
    have hle := hrest.le
    refine ⟨?_, fun htype => ?_, fun htype _ => ?_, fun herror => ?_⟩
    · show k' + 4 ≤ _
      omega
    · have haddress := ha.address htype
      show k' + 4 + 2 ≤ _
      omega
    · have haddress := ha.address htype
      show k' + 4 + 8 ≤ _
      omega
    · have hcode := ha.error herror
      show k' + 4 + 4 ≤ _
      omega

end Loop

/-! ## Responses -/

/-- The packet starts with a header after which the body is read. -/
structure BindingHeader (stream : Bitstream) : Prop where
  cookie : stream.word32 4 = kStunProtocolMagicCookie
  msgType : stunMsgType (stream.word16 0) = kStunMsgTypeBinding
  msgClass : stunMsgClass (stream.word16 0) ≠ .request

/-- What is read of the response is in the packet: only the attributes can lead out of it. -/
def ResponseInside (stream : Bitstream) : Prop :=
  BindingHeader stream → AttributesInside stream 20 (stream.word16 2).toNat

section Response

variable {stream stream' : Bitstream} {transactionId : StunTransactionId}
  {response : StunBindingResponse}

theorem atMost_readBytes {m length : Nat} (dest : Vector UInt8 m) (h : length ≤ m) :
    AtMost length (bitstreamReadBytes dest length) := by
  intro stream hdata
  rw [bitstreamReadBytes]
  split
  · obtain ⟨dest', hdest'⟩ := Option.isSome_iff_exists.1
      ((readBytesLoop_isSome_iff dest hdata length (Nat.le_refl _)).2 h)
    rw [hdest']
    exact ⟨_, stream.offset + length, rfl, Nat.le_refl _⟩
  · exact ⟨_, stream.offset, rfl, Nat.le_add_right _ _⟩

theorem atMost_stunHeader : AtMost 20 (stunProtocolUnpackHeader transactionId) :=
  fixed_uint16.atMost.bind (w := 18) fun _ => fixed_uint16.atMost.bind (w := 16) fun _ =>
    fixed_uint32.atMost.bind (w := 12) fun _ => atMost_ite (atMost_pure _) <|
      (atMost_readBytes transactionId.id (Nat.le_refl _)).bind (w := 0) fun _ => atMost_pure _

theorem unpackHeader_invalid {msgType length : UInt32} {msgClass : StunMsgClass}
    {transactionId' : StunTransactionId} (h : stunProtocolUnpackHeader transactionId stream =
      some ((.invalid, msgType, msgClass, transactionId', length), stream')) :
    stream.word32 (stream.offset + 4) ≠ kStunProtocolMagicCookie := by
  rw [← stream.moveTo_offset] at h
  obtain ⟨type, s₁, htype, h⟩ := bind_eq_some h
  obtain ⟨rfl, rfl⟩ := uint16_eq_some htype
  obtain ⟨len, s₂, hlen, h⟩ := bind_eq_some h
  obtain ⟨rfl, rfl⟩ := uint16_eq_some hlen
  obtain ⟨magicCookie, s₃, hcookie, h⟩ := bind_eq_some h
  obtain ⟨rfl, rfl⟩ := uint32_eq_some hcookie
  split at h
  · rename_i hmagic
    exact hmagic
  · obtain ⟨x, s₄, -, h⟩ := bind_eq_some h
    cases h

theorem unpackBody_isSome_iff {k i : Nat} :
    (stunProtocolUnpackBindingResponseBody (stream.word16 i) (stream.moveTo k)).isSome ↔
      AttributesInside stream k (stream.word16 i).toNat := by
  have hlt := stream.word16_lt i
  rw [stunProtocolUnpackBindingResponseBody, stunRemainingBytes_eq, if_pos (by omega)]
  exact unpackAttributes_isSome_iff (Nat.le_refl _)

/-- **Which responses are decoded inside the packet.** -/
theorem bindingResponse_isSome_iff (hin : stream.Inside kNetPacketMaxLen)
    (hoffset : stream.offset = 0) :
    (stunProtocolUnpackBindingResponse transactionId response stream).isSome ↔
      ResponseInside stream := by
  have hsize : stream.data.length = 256 := by rw [← hin.sized.bound, hin.bound_eq]; rfl
  have hroom : stream.offset + 20 ≤ stream.data.length := by omega
  obtain ⟨⟨result, msgType, msgClass, id, length⟩, k, hheader, -⟩ := atMost_stunHeader stream hroom
  rw [stunProtocolUnpackBindingResponse, bind_run hheader]
  dsimp only
  by_cases hresult : result = .invalid
  · subst hresult
    have hcookie := unpackHeader_invalid hheader
    rw [hoffset] at hcookie
    exact iff_of_true rfl fun h => absurd h.cookie hcookie
  obtain ⟨⟨rfl, rfl, rfl, hend⟩, hcookie, -⟩ := unpackHeader_valid hheader hresult
  have henough : stream.enough (stream.offset + 8) kStunTransactionIdLen := by
    have hid : stream.offset + 8 + kStunTransactionIdLen ≤ kNetPacketMaxLen := by
      rw [hoffset]
      decide
    have hstart : stream.offset + 8 ≤ kNetPacketMaxLen := Nat.le_trans (Nat.le_add_right _ _) hid
    exact (hin.moveTo hstart).bytesDoFit_iff.2 hid
  rw [Bitstream.stunHeaderEnd, if_pos henough, hoffset] at hend
  rw [hoffset] at hcookie ⊢
  rw [if_neg hresult]
  by_cases hforeign : stunMsgType (stream.word16 0) ≠ kStunMsgTypeBinding ∨
      stunMsgClass (stream.word16 0) = .request
  · rw [if_pos hforeign]
    refine iff_of_true rfl fun h => ?_
    exact hforeign.elim (fun htype => absurd h.msgType htype) fun hclass =>
      absurd hclass h.msgClass
  rw [if_neg hforeign]
  obtain ⟨htype, hclass⟩ := not_or.1 hforeign
  have hresponse : BindingHeader stream := ⟨hcookie, not_not.1 htype, hclass⟩
  by_cases hlength : stream.word16 2 = 0
  · rw [if_pos hlength]
    refine iff_of_true rfl fun _ => ?_
    rw [hlength]
    exact attributesInside_zero
  have hbody : ResponseInside stream ↔
      (stunProtocolUnpackBindingResponseBody (stream.word16 2) (stream.moveTo 20)).isSome := by
    rw [unpackBody_isSome_iff]
    exact forall_prop_of_true hresponse
  rw [if_neg hlength, hend, isSome_bind, hbody, Option.isSome_iff_exists]
  constructor
  · rintro ⟨x, s, hx, -⟩
    exact ⟨_, hx⟩
  · rintro ⟨⟨⟨result', r⟩, s⟩, hx⟩
    refine ⟨_, s, hx, ?_⟩
    dsimp only
    split <;> rfl

end Response

end UniversalNetwork
