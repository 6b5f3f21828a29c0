import UniversalNetwork.StunProtocol.Attributes

/-!
# Binding responses

`BindingMessage` says on the bytes which messages the decoder accepts, `mappedAddress` which address
their attributes map. The decoder refuses requests only, and it does not ask whether the transaction
id is all there.

* `unpackResponse_valid_iff`: the messages that are accepted, and the response made of them.
* `attributesAt_unique`: a message has one list of attributes.
* `storeAttributes_mapped`: the mapped address of the response is that of the attributes.
-/

namespace UniversalNetwork

open Lib

namespace Bitstream

variable (stream : Bitstream)

/-- The bytes of a transaction id. -/
def IdAt (k : Nat) (transactionId : StunTransactionId) : Prop :=
  HasAt stream.data k transactionId.id.toList.reverse

/-- Where the decoder of a header stops; a transaction id that is not all there is not read. -/
def stunHeaderEnd : Nat :=
  if stream.enough (stream.offset + 8) kStunTransactionIdLen then
    stream.offset + 8 + kStunTransactionIdLen
  else stream.offset + 8

/-- A response to a binding request, or an indication, with these attributes as the loop cuts them.
The transaction id is `dest` when it is not all there. -/
structure BindingMessage (dest transactionId : StunTransactionId)
    (attributes : List StunAttribute) : Prop where
  type : stunMsgType (stream.word16 stream.offset) = kStunMsgTypeBinding
  response : stunMsgClass (stream.word16 stream.offset) ≠ .request
  body : stream.word16 (stream.offset + 2) ≠ 0
  cookie : stream.word32 (stream.offset + 4) = kStunProtocolMagicCookie
  whole : stream.enough (stream.offset + 8) kStunTransactionIdLen →
    stream.IdAt (stream.offset + 8) transactionId
  short : ¬ stream.enough (stream.offset + 8) kStunTransactionIdLen → transactionId = dest
  attributes : ∃ l, AttributesAt stream stream.stunHeaderEnd
    (stream.word16 (stream.offset + 2)).toNat attributes l

end Bitstream

/-- The last attribute of a type. -/
def lastAttribute (type : UInt32) : List StunAttribute → Option StunAttribute
  | [] => none
  | a :: attributes => (lastAttribute type attributes).or (if a.type = type then some a else none)

/-- The address of the last XOR-MAPPED-ADDRESS, or of the last MAPPED-ADDRESS. -/
def Bitstream.mappedAddress (stream : Bitstream) (attributes : List StunAttribute) :
    Option NetAddr :=
  ((lastAttribute StunAttributeType.xorMappedAddress.code attributes).map
      fun a => stream.stunXorAddr (a.offset + 4)).or
    ((lastAttribute StunAttributeType.mappedAddress.code attributes).map
      fun a => stream.stunAddr (a.offset + 4))

/-! ## The mapped address -/

namespace StunBindingResponse

variable (response : StunBindingResponse)

def xorMapped? : Option NetAddr :=
  if response.hasXorMappedAddress then some response.xorMappedAddressAddr else none

def mapped? : Option NetAddr :=
  if response.hasMappedAddress then some response.mappedAddressAddr else none

end StunBindingResponse

section Mapped

variable {stream : Bitstream}

theorem store_xorMapped (a : StunAttribute) (response : StunBindingResponse) :
    (a.store stream response).xorMapped? =
      if a.type = StunAttributeType.xorMappedAddress.code then
        some (stream.stunXorAddr (a.offset + 4))
      else response.xorMapped? := by
  by_cases hxor : a.type = StunAttributeType.xorMappedAddress.code
  · rw [StunAttribute.store, if_neg (by rw [hxor]; decide), if_pos hxor, if_pos hxor]
    rfl
  rw [StunAttribute.store, if_neg hxor, if_neg hxor]
  (repeat' split) <;> rfl

theorem store_mapped (a : StunAttribute) (response : StunBindingResponse) :
    (a.store stream response).mapped? =
      if a.type = StunAttributeType.mappedAddress.code then some (stream.stunAddr (a.offset + 4))
      else response.mapped? := by
  rw [StunAttribute.store]
  by_cases hmapped : a.type = StunAttributeType.mappedAddress.code
  · rw [if_pos hmapped, if_pos hmapped]
    rfl
  rw [if_neg hmapped, if_neg hmapped]
  (repeat' split) <;> rfl

/-- What is set by the attributes of one type is what the last of them says. -/
theorem storeAttributes_last {β : Type} {type : UInt32} {value : StunAttribute → β}
    {found : StunBindingResponse → Option β}
    (hstore : ∀ a response, found (a.store stream response) =
      if a.type = type then some (value a) else found response)
    (attributes : List StunAttribute) (response : StunBindingResponse) :
    found (storeAttributes stream attributes response) =
      ((lastAttribute type attributes).map value).or (found response) := by
  induction attributes generalizing response with
  | nil => rfl
  | cons a attributes ih =>
    rw [show storeAttributes stream (a :: attributes) response =
      storeAttributes stream attributes (a.store stream response) from rfl, ih, hstore,
      lastAttribute]
    cases lastAttribute type attributes with
    | some b => rfl
    | none =>
      simp only [Option.none_or, Option.map_none]
      split <;> rfl

theorem storeAttributes_mapped (attributes : List StunAttribute) :
    ((storeAttributes stream attributes .zeroed).xorMapped?).or
      (storeAttributes stream attributes .zeroed).mapped? = stream.mappedAddress attributes := by
  rw [storeAttributes_last store_xorMapped, storeAttributes_last store_mapped]
  simp only [StunBindingResponse.xorMapped?, StunBindingResponse.mapped?,
    StunBindingResponse.zeroed, Bool.false_eq_true, if_false, Option.or_none]
  rfl

end Mapped

/-! ## Reading a transaction id -/

section Id

variable {stream stream' : Bitstream} {k : Nat}

theorem readBytes_at {m : Nat} (dest bytes : Vector UInt8 m) (henough : stream.enough k m)
    (hat : HasAt stream.data k bytes.toList.reverse) :
    bitstreamReadBytes dest m (stream.moveTo k) = some ((m, bytes), stream.moveTo (k + m)) := by
  have hlen : bytes.toList.reverse.length = m := by
    rw [List.length_reverse, bytes.length_toList]
  have hloop := readBytesLoop_eq dest hat (Nat.le_of_eq hlen) m (Nat.le_of_eq hlen.symm)
  rw [hlen, List.reverse_reverse, List.take_of_length_le (Nat.le_of_eq bytes.length_toList),
    patch_toList] at hloop
  rw [bitstreamReadBytes, if_pos (show (stream.moveTo k).bytesDoFit m from henough)]
  simp only [Bitstream.data_moveTo, Bitstream.offset_moveTo, hloop]
  rfl

/-- The bytes there are those of one id. -/
theorem exists_idAt (h : k + kStunTransactionIdLen ≤ stream.data.length) :
    ∃ transactionId, stream.IdAt k transactionId := by
  have hlen : ((stream.data.drop k).take kStunTransactionIdLen).reverse.length =
      kStunTransactionIdLen := by
    rw [List.length_reverse, List.length_take, List.length_drop]
    omega
  refine ⟨⟨⟨⟨((stream.data.drop k).take kStunTransactionIdLen).reverse⟩, hlen⟩⟩, ?_⟩
  show ((stream.data.drop k).take kStunTransactionIdLen).reverse.reverse <+: stream.data.drop k
  rw [List.reverse_reverse]
  exact List.take_prefix _ _

theorem idAt_unique {id id' : StunTransactionId} (h : stream.IdAt k id) (h' : stream.IdAt k id') :
    id = id' := by
  have hlen : id.id.toList.reverse.length = id'.id.toList.reverse.length := by
    simp only [List.length_reverse, Vector.length_toList]
  have heq := (List.prefix_of_prefix_length_le h h' (Nat.le_of_eq hlen)).eq_of_length hlen
  cases id
  cases id'
  exact congrArg _ (Vector.toList_inj.1 (List.reverse_inj.1 heq))

end Id

/-! ## Messages -/

section Messages

variable {stream stream' : Bitstream} {dest transactionId : StunTransactionId}
  {old response : StunBindingResponse}

/-- The body is valid or invalid. -/
theorem unpackAttributes_result {turns remaining : Nat} {r r' : StunBindingResponse}
    {result : StunResult}
    (h : stunUnpackAttributes turns remaining r stream = some ((result, r'), stream'))
    (hresult : result ≠ .invalid) : result = .valid := by
  induction turns generalizing remaining r stream with
  | zero =>
    cases h
    rfl
  | succ turns ih =>
    rw [stunUnpackAttributes] at h
    split at h
    · cases h
      rfl
    obtain ⟨type, s₁, -, h⟩ := bind_eq_some h
    obtain ⟨length, s₂, -, h⟩ := bind_eq_some h
    obtain ⟨⟨result', r''⟩, s₃, -, h⟩ := bind_eq_some h
    dsimp only at h
    split at h
    · cases h
      exact absurd rfl hresult
    · exact ih h

/-- The body of a message with a positive length. -/
theorem unpackBody_valid_iff {k i : Nat} :
    stunProtocolUnpackBindingResponseBody (stream.word16 i) (stream.moveTo k) =
      some ((.valid, response), stream') ↔
    ∃ attributes l, AttributesAt stream k (stream.word16 i).toNat attributes l ∧
      response = storeAttributes stream attributes .zeroed ∧ stream' = stream.moveTo l := by
  have hlt := stream.word16_lt i
  rw [stunProtocolUnpackBindingResponseBody, stunRemainingBytes_eq, if_pos (by omega)]
  exact unpackAttributes_valid_iff (Nat.le_refl _)

/-- Reading the transaction id, where the block has it. -/
theorem readId_iff {k n : Nat} {bytes : Vector UInt8 kStunTransactionIdLen}
    (hdata : k + kStunTransactionIdLen ≤ stream.data.length)
    (henough : stream.enough k kStunTransactionIdLen) :
    bitstreamReadBytes dest.id kStunTransactionIdLen (stream.moveTo k) =
      some ((n, bytes), stream') ↔
    n = kStunTransactionIdLen ∧ stream.IdAt k ⟨bytes⟩ ∧
      stream' = stream.moveTo (k + kStunTransactionIdLen) := by
  obtain ⟨id, hid⟩ := exists_idAt hdata
  rw [readBytes_at dest.id id.id henough hid]
  constructor
  · intro h
    cases h
    exact ⟨rfl, hid, rfl⟩
  · rintro ⟨rfl, hat, rfl⟩
    obtain rfl := idAt_unique hid hat
    rfl

theorem stunHeaderEnd_ge : stream.offset + 8 ≤ stream.stunHeaderEnd := by
  rw [Bitstream.stunHeaderEnd]
  split <;> omega

/-- A header that is not invalid. -/
theorem unpackHeader_valid {msgType length : UInt32} {msgClass : StunMsgClass}
    {result : StunResult} (h : stunProtocolUnpackHeader dest stream =
      some ((result, msgType, msgClass, transactionId, length), stream'))
    (hresult : result ≠ .invalid) :
    (msgType = stunMsgType (stream.word16 stream.offset) ∧
      msgClass = stunMsgClass (stream.word16 stream.offset) ∧
      length = stream.word16 (stream.offset + 2) ∧ stream' = stream.moveTo stream.stunHeaderEnd) ∧
    stream.word32 (stream.offset + 4) = kStunProtocolMagicCookie ∧
    (stream.enough (stream.offset + 8) kStunTransactionIdLen →
      stream.stunHeaderEnd ≤ stream.data.length →
      stream.IdAt (stream.offset + 8) transactionId) ∧
    (¬ stream.enough (stream.offset + 8) kStunTransactionIdLen → transactionId = dest) := by
  rw [← stream.moveTo_offset] at h
  obtain ⟨type, s₁, htype, h⟩ := bind_eq_some h
  obtain ⟨rfl, rfl⟩ := uint16_eq_some htype
  obtain ⟨len, s₂, hlen, h⟩ := bind_eq_some h
  obtain ⟨rfl, rfl⟩ := uint16_eq_some hlen
  obtain ⟨magicCookie, s₃, hcookie, h⟩ := bind_eq_some h
  obtain ⟨rfl, rfl⟩ := uint32_eq_some hcookie
  split at h
  · cases h
    exact absurd rfl hresult
  rename_i hmagic
  obtain ⟨⟨n, id⟩, s₄, hbytes, h⟩ := bind_eq_some h
  cases h
  refine ⟨⟨rfl, rfl, rfl, ?_⟩, not_not.1 hmagic, ?_, ?_⟩
  · rcases readBytes_eq_some hbytes with ⟨henough, -, rfl⟩ | ⟨henough, -, rfl⟩
    · exact congrArg stream.moveTo (if_pos henough).symm
    · exact congrArg stream.moveTo (if_neg henough).symm
  · intro henough hdata
    rw [Bitstream.stunHeaderEnd, if_pos henough] at hdata
    exact ((readId_iff hdata henough).1 hbytes).2.1
  · intro hshort
    rw [bitstreamReadBytes, if_neg (show ¬ (stream.moveTo (stream.offset + 8)).bytesDoFit
      kStunTransactionIdLen from hshort)] at hbytes
    cases hbytes
    rfl

theorem unpackHeader_at {attributes : List StunAttribute}
    (h : stream.BindingMessage dest transactionId attributes)
    (hdata : stream.stunHeaderEnd ≤ stream.data.length) :
    stunProtocolUnpackHeader dest stream = some ((.valid, stunMsgType (stream.word16 stream.offset),
      stunMsgClass (stream.word16 stream.offset), transactionId,
      stream.word16 (stream.offset + 2)), stream.moveTo stream.stunHeaderEnd) := by
  have hend : stream.offset + 8 ≤ stream.stunHeaderEnd := stunHeaderEnd_ge
  have htype := @uint16_at stream stream.offset (by omega)
  rw [Bitstream.moveTo_offset] at htype
  have hbytes : ∃ n, bitstreamReadBytes dest.id kStunTransactionIdLen
      (stream.moveTo (stream.offset + 8)) =
        some ((n, transactionId.id), stream.moveTo stream.stunHeaderEnd) := by
    rw [Bitstream.stunHeaderEnd] at hdata ⊢
    by_cases henough : stream.enough (stream.offset + 8) kStunTransactionIdLen
    · rw [if_pos henough] at hdata ⊢
      exact ⟨_, (readId_iff hdata henough).2 ⟨rfl, h.whole henough, rfl⟩⟩
    · rw [if_neg henough, bitstreamReadBytes, if_neg (show ¬ (stream.moveTo (stream.offset +
        8)).bytesDoFit kStunTransactionIdLen from henough), h.short henough]
      exact ⟨0, rfl⟩
  obtain ⟨n, hbytes⟩ := hbytes
  rw [stunProtocolUnpackHeader, bind_run htype, bind_run (uint16_at (by omega)),
    bind_run (uint32_at (by omega)), if_neg (not_not_intro h.cookie), bind_run hbytes]
  rfl

theorem attributesAt_header {k remaining l : Nat} {attributes : List StunAttribute}
    (h : AttributesAt stream k remaining attributes l) (hremaining : remaining ≠ 0) :
    k + 4 ≤ stream.data.length := by
  cases h with
  | done => exact absurd rfl hremaining
  | next _ hheader _ _ => exact hheader

theorem attributesAt_unique {k remaining l l' : Nat} {attributes attributes' : List StunAttribute}
    (h : AttributesAt stream k remaining attributes l)
    (h' : AttributesAt stream k remaining attributes' l') : attributes = attributes' := by
  induction h generalizing attributes' with
  | done =>
    cases h' with
    | done => rfl
    | next hremaining _ _ _ => exact absurd rfl hremaining
  | next hremaining _ _ _ ih =>
    cases h' with
    | done => exact absurd rfl hremaining
    | next _ _ _ hrest => rw [ih hrest]

/-- **The messages that are accepted**, and the response made of them. -/
theorem unpackResponse_valid_iff :
    (∃ stream', stunProtocolUnpackBindingResponse dest old stream =
      some ((.valid, transactionId, response), stream')) ↔
    ∃ attributes, stream.BindingMessage dest transactionId attributes ∧
      response = storeAttributes stream attributes .zeroed := by
  constructor
  · rintro ⟨stream', h⟩
    obtain ⟨⟨result, msgType, msgClass, id, length⟩, s₁, hheader, h⟩ := bind_eq_some h
    dsimp only at h
    split at h
    · cases h
    rename_i hresult
    obtain ⟨⟨rfl, rfl, rfl, rfl⟩, hcookie, hwhole, hshort⟩ := unpackHeader_valid hheader hresult
    split at h
    · cases h
    rename_i htype
    rw [not_or, not_not] at htype
    split at h
    · cases h
    rename_i hlength
    obtain ⟨⟨result', r⟩, s₂, hbody, h⟩ := bind_eq_some h
    dsimp only at h
    split at h
    · cases h
    rename_i hresult'
    cases h
    obtain rfl := unpackAttributes_result hbody hresult'
    obtain ⟨attributes, l, hat, rfl, rfl⟩ := unpackBody_valid_iff.1 hbody
    have hremaining : (stream.word16 (stream.offset + 2)).toNat ≠ 0 :=
      fun hzero => hlength (UInt32.toNat_inj.1 hzero)
    have hdata := attributesAt_header hat hremaining
    exact ⟨attributes, ⟨htype.1, htype.2, hlength, hcookie,
      fun henough => hwhole henough (by omega), hshort, l, hat⟩, rfl⟩
  · rintro ⟨attributes, hmessage, rfl⟩
    obtain ⟨l, hat⟩ := hmessage.attributes
    have hremaining : (stream.word16 (stream.offset + 2)).toNat ≠ 0 :=
      fun hzero => hmessage.body (UInt32.toNat_inj.1 hzero)
    have hdata := attributesAt_header hat hremaining
    have hbody := unpackBody_valid_iff.2 ⟨attributes, l, hat, rfl, rfl⟩
    refine ⟨stream.moveTo l, ?_⟩
    rw [stunProtocolUnpackBindingResponse, bind_run (unpackHeader_at hmessage (by omega))]
    dsimp only
    rw [if_neg nofun, if_neg (not_or.2 ⟨not_not_intro hmessage.type, hmessage.response⟩),
      if_neg hmessage.body, bind_run hbody]
    rfl

end Messages

end UniversalNetwork
