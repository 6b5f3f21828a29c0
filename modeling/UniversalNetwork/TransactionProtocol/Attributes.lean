import UniversalNetwork.Bitstream.Words
import UniversalNetwork.TransactionProtocol

/-!
# The attributes of a packet

What the bytes of a packet say about the attributes in it, without decoding them: whether the
attribute at a position is well formed (`Attribute.formed`) and where the one after it starts
(`Attribute.next`). A decoder that meets a bad tag consumes the tag only, one that meets a bad length
only these two bytes, so the next attribute is looked for at a shifted position.

* `string_eq_some`, `address_eq_some`, …: a decoder that returns has read the attribute at its
  offset and stops where the next one starts.
* `string_isSome`, `address_isSome`, …: with enough memory to read from, it returns unless it writes
  outside its destination.
-/

namespace UniversalNetwork

open Lib

/-! ## Header -/

/-- A valid common header has the three bytes that are expected. -/
theorem protocolHeader_valid {stream stream' : Bitstream} {protocolId protocolVersion : UInt32}
    {protocolType : ProtocolType}
    (h : protocolUnpackHeader protocolId protocolVersion protocolType (stream.moveTo 0) =
      some (.valid, stream')) :
    stream' = stream.moveTo 3 ∧ stream.word8 0 = protocolId ∧ stream.word8 1 = protocolVersion ∧
      stream.word8 2 = protocolType.code := by
  obtain ⟨x₀, s₁, h₀, h⟩ := bind_eq_some h
  obtain ⟨rfl, rfl⟩ := uint8_eq_some h₀
  split at h
  · cases h
  rename_i hid
  obtain ⟨x₁, s₂, h₁, h⟩ := bind_eq_some h
  obtain ⟨rfl, rfl⟩ := uint8_eq_some h₁
  split at h
  · cases h
  rename_i hversion
  obtain ⟨x₂, s₃, h₂, h⟩ := bind_eq_some h
  obtain ⟨rfl, rfl⟩ := uint8_eq_some h₂
  split at h
  · cases h
  rename_i htype
  cases h
  exact ⟨rfl, (not_not.1 hid).symm, (not_not.1 hversion).symm, (not_not.1 htype).symm⟩

/-! ## Places -/

/-- The attributes, and the data of a resource with its length byte. -/
inductive Attribute
  | string (max : Nat)
  | address
  | seconds
  | count
  | data
deriving DecidableEq, Repr

namespace Attribute

/-- Tag and length byte of an attribute of fixed size. -/
def fixedFormed (stream : Bitstream) (k : Nat) (tag length : UInt32) : Prop :=
  stream.word8 k = tag ∧ stream.word8 (k + 1) = length

instance (stream : Bitstream) (k : Nat) (tag length : UInt32) :
    Decidable (fixedFormed stream k tag length) :=
  inferInstanceAs (Decidable (stream.word8 k = tag ∧ stream.word8 (k + 1) = length))

def fixedNext (stream : Bitstream) (k : Nat) (tag length : UInt32) (bytes : Nat) : Nat :=
  if stream.word8 k ≠ tag then k + 1
  else if stream.word8 (k + 1) ≠ length then k + 2
  else k + 2 + bytes

/-- The attribute that starts at index `k` has the tag and the length that its decoder tests. -/
def formed (stream : Bitstream) (k : Nat) : Attribute → Prop
  | string _ => stream.word8 k = TransactionAttributeType.string.code
  | address => fixedFormed stream k TransactionAttributeType.address.code
      kTransactionAttributeLengthAddress
  | seconds => fixedFormed stream k TransactionAttributeType.seconds.code
      kTransactionAttributeLengthSeconds
  | count => fixedFormed stream k TransactionAttributeType.count.code
      kTransactionAttributeLengthCount
  | data => stream.enough (k + 1) (stream.word8 k).toNat

instance (stream : Bitstream) (k : Nat) : (a : Attribute) → Decidable (a.formed stream k)
  | string _ => inferInstanceAs
      (Decidable (stream.word8 k = TransactionAttributeType.string.code))
  | address => inferInstanceAs (Decidable (fixedFormed stream k
      TransactionAttributeType.address.code kTransactionAttributeLengthAddress))
  | seconds => inferInstanceAs (Decidable (fixedFormed stream k
      TransactionAttributeType.seconds.code kTransactionAttributeLengthSeconds))
  | count => inferInstanceAs (Decidable (fixedFormed stream k
      TransactionAttributeType.count.code kTransactionAttributeLengthCount))
  | data => inferInstanceAs (Decidable (stream.enough (k + 1) (stream.word8 k).toNat))

/-- A string attribute whose characters and null fit in `max` bytes. -/
def short (stream : Bitstream) (k max : Nat) : Prop :=
  stream.word8 k = TransactionAttributeType.string.code ∧ (stream.word8 (k + 2)).toNat + 1 ≤ max

instance (stream : Bitstream) (k max : Nat) : Decidable (short stream k max) :=
  inferInstanceAs (Decidable (stream.word8 k = TransactionAttributeType.string.code ∧
    (stream.word8 (k + 2)).toNat + 1 ≤ max))

/-- Where the decoder of the attribute at index `k` stops. -/
def next (stream : Bitstream) (k : Nat) : Attribute → Nat
  | string max =>
    if stream.word8 k ≠ TransactionAttributeType.string.code then k + 1
    else if (stream.word8 (k + 2)).toNat + 1 > max then k + 3
    else if stream.enough (k + 3) (stream.word8 (k + 2)).toNat then
      k + 3 + (stream.word8 (k + 2)).toNat
    else k + 3
  | address => fixedNext stream k TransactionAttributeType.address.code
      kTransactionAttributeLengthAddress 6
  | seconds => fixedNext stream k TransactionAttributeType.seconds.code
      kTransactionAttributeLengthSeconds 4
  | count => fixedNext stream k TransactionAttributeType.count.code
      kTransactionAttributeLengthCount 2
  | data =>
    if stream.enough (k + 1) (stream.word8 k).toNat then k + 1 + (stream.word8 k).toNat else k + 1

/-- What the decoder returns. -/
def result (stream : Bitstream) (k : Nat) (a : Attribute) : UnpackResult :=
  if a.formed stream k then .valid else .invalid

theorem result_of_formed {stream : Bitstream} {k : Nat} {a : Attribute} (h : a.formed stream k) :
    a.result stream k = .valid := if_pos h

theorem result_of_not_formed {stream : Bitstream} {k : Nat} {a : Attribute}
    (h : ¬ a.formed stream k) : a.result stream k = .invalid := if_neg h

theorem result_eq_valid {stream : Bitstream} {k : Nat} {a : Attribute} :
    a.result stream k = .valid ↔ a.formed stream k := by
  unfold result
  split <;> simp_all

section MoveTo

variable (stream : Bitstream) (l k : Nat) (a : Attribute)

@[simp] theorem formed_moveTo : a.formed (stream.moveTo l) k ↔ a.formed stream k := by
  cases a <;> rfl

end MoveTo

end Attribute

/-! ## The decoders -/

section Decoders

variable {stream stream' : Bitstream} {r : UnpackResult}

theorem string_eq_some {n max k : Nat} {string string' : Vector UInt8 n}
    (h : transactionProtocolUnpackAttributeString string max (stream.moveTo k) =
      some ((r, string'), stream')) :
    r = (Attribute.string max).result stream k ∧
      stream' = stream.moveTo ((Attribute.string max).next stream k) := by
  obtain ⟨type, s₁, htype, h⟩ := bind_eq_some h
  obtain ⟨rfl, rfl⟩ := uint8_eq_some htype
  rw [Attribute.next]
  by_cases htag : stream.word8 k = TransactionAttributeType.string.code
  · rw [if_neg (not_not_intro htag)] at h ⊢
    rw [Attribute.result_of_formed (a := .string max) htag]
    obtain ⟨length, s₂, hlength, h⟩ := bind_eq_some h
    obtain ⟨rfl, rfl⟩ := uint8_eq_some hlength
    obtain ⟨x, s₃, hstr, h⟩ := bind_eq_some h
    cases h
    exact ⟨rfl, readStr_eq_some hstr⟩
  · rw [if_pos htag] at h ⊢
    rw [Attribute.result_of_not_formed (a := .string max) htag]
    cases h
    exact ⟨rfl, rfl⟩

/-- The form of the decoders of attributes of fixed size: tag, length, then the value. -/
def unpackFixed {α : Type} (tag length : UInt32) (old : α) (body : BitM (UnpackResult × α)) :
    BitM (UnpackResult × α) := do
  let attributeType ← bitstreamReadUint8
  if attributeType ≠ tag then
    return (.invalid, old)
  let attributeLength ← bitstreamReadUint8
  if attributeLength ≠ length then
    return (.invalid, old)
  body

theorem fixed_cases {α : Type} {k : Nat} {tag length : UInt32} {old new : α}
    {body : BitM (UnpackResult × α)}
    (h : unpackFixed tag length old body (stream.moveTo k) = some ((r, new), stream')) :
    (Attribute.fixedFormed stream k tag length ∧
        body (stream.moveTo (k + 2)) = some ((r, new), stream')) ∨
      (¬ Attribute.fixedFormed stream k tag length ∧ r = .invalid ∧ new = old ∧
        ∀ bytes, stream' = stream.moveTo (Attribute.fixedNext stream k tag length bytes)) := by
  obtain ⟨type, s₁, htype, h⟩ := bind_eq_some h
  obtain ⟨rfl, rfl⟩ := uint8_eq_some htype
  by_cases htag : stream.word8 k = tag
  · rw [if_neg (not_not_intro htag)] at h
    obtain ⟨x, s₂, hlength, h⟩ := bind_eq_some h
    obtain ⟨rfl, rfl⟩ := uint8_eq_some hlength
    by_cases hlen : stream.word8 (k + 1) = length
    · rw [if_neg (not_not_intro hlen)] at h
      exact .inl ⟨⟨htag, hlen⟩, h⟩
    · rw [if_pos hlen] at h
      cases h
      refine .inr ⟨fun hf => hlen hf.2, rfl, rfl, fun bytes => ?_⟩
      rw [Attribute.fixedNext, if_neg (not_not_intro htag), if_pos hlen]
  · rw [if_pos htag] at h
    cases h
    refine .inr ⟨fun hf => htag hf.1, rfl, rfl, fun bytes => ?_⟩
    rw [Attribute.fixedNext, if_pos htag]

theorem fixedNext_of_formed {k : Nat} {tag length : UInt32}
    (h : Attribute.fixedFormed stream k tag length) (bytes : Nat) :
    Attribute.fixedNext stream k tag length bytes = k + 2 + bytes := by
  rw [Attribute.fixedNext, if_neg (not_not_intro h.1), if_neg (not_not_intro h.2)]

theorem address_eq_some {k : Nat} {address address' : NetAddr}
    (h : transactionProtocolUnpackAttributeAddress address (stream.moveTo k) =
      some ((r, address'), stream')) :
    r = Attribute.address.result stream k ∧
      stream' = stream.moveTo (Attribute.address.next stream k) := by
  rcases fixed_cases h with ⟨hformed, hbody⟩ | ⟨hformed, rfl, -, hnext⟩
  · obtain ⟨port, s₁, hport, hbody⟩ := bind_eq_some hbody
    obtain ⟨host, s₂, hhost, hbody⟩ := bind_eq_some hbody
    cases hbody
    refine ⟨(Attribute.result_of_formed (a := .address) hformed).symm, ?_⟩
    rw [fixed_uint32Endian.moves_to hhost, fixed_uint16Endian.moves_to hport, Attribute.next,
      fixedNext_of_formed hformed]
    rfl
  · exact ⟨(Attribute.result_of_not_formed (a := .address) hformed).symm, hnext _⟩

theorem seconds_eq_some {k : Nat} {seconds seconds' : Int}
    (h : transactionProtocolUnpackAttributeSeconds seconds (stream.moveTo k) =
      some ((r, seconds'), stream')) :
    r = Attribute.seconds.result stream k ∧
      stream' = stream.moveTo (Attribute.seconds.next stream k) := by
  rcases fixed_cases h with ⟨hformed, hbody⟩ | ⟨hformed, rfl, -, hnext⟩
  · obtain ⟨value, s₁, hvalue, hbody⟩ := bind_eq_some hbody
    cases hbody
    refine ⟨(Attribute.result_of_formed (a := .seconds) hformed).symm, ?_⟩
    rw [fixed_uint32.moves_to hvalue, Attribute.next, fixedNext_of_formed hformed]
  · exact ⟨(Attribute.result_of_not_formed (a := .seconds) hformed).symm, hnext _⟩

/-- The peers that the count attribute at index `k` announces; a malformed one leaves `held`. -/
def peerCount (stream : Bitstream) (k : Nat) (held : UInt32) : UInt32 :=
  if Attribute.count.formed stream k then stream.word16 (k + 2) else held

theorem count_eq_some {k : Nat} {count count' : UInt32}
    (h : transactionProtocolUnpackAttributeCount count (stream.moveTo k) =
      some ((r, count'), stream')) :
    r = Attribute.count.result stream k ∧ count' = peerCount stream k count ∧
      stream' = stream.moveTo (Attribute.count.next stream k) := by
  rcases fixed_cases h with ⟨hformed, hbody⟩ | ⟨hformed, rfl, rfl, hnext⟩
  · obtain ⟨value, s₁, hvalue, hbody⟩ := bind_eq_some hbody
    cases hbody
    obtain ⟨rfl, rfl⟩ := uint16_eq_some hvalue
    refine ⟨(Attribute.result_of_formed (a := .count) hformed).symm, (if_pos hformed).symm, ?_⟩
    rw [Attribute.next, fixedNext_of_formed hformed]
  · exact ⟨(Attribute.result_of_not_formed (a := .count) hformed).symm, (if_neg hformed).symm,
      hnext _⟩

/-! ## Faults of the decoders -/

theorem string_isSome {n max k : Nat} (string : Vector UInt8 n)
    (hdata : k + 3 + max ≤ stream.data.length) :
    (transactionProtocolUnpackAttributeString string max (stream.moveTo k)).isSome ↔
      (Attribute.short stream k max → (stream.word8 (k + 2)).toNat < n) := by
  obtain ⟨⟨x, s⟩, hx⟩ := Option.isSome_iff_exists.1
    (uint8_isSome stream k (by omega))
  obtain ⟨rfl, rfl⟩ := uint8_eq_some hx
  rw [transactionProtocolUnpackAttributeString, bind_run hx]
  by_cases htag : stream.word8 k = TransactionAttributeType.string.code
  · obtain ⟨⟨x, s⟩, hx⟩ := Option.isSome_iff_exists.1
      (uint8_isSome stream (k + 1) (by omega))
    obtain ⟨rfl, rfl⟩ := uint8_eq_some hx
    have hroom : k + 2 + 1 + max ≤ stream.data.length := by omega
    have hstr := readStr_isSome string hroom
    rw [if_neg (not_not_intro htag), bind_run hx, isSome_bind]
    simp only [Attribute.short, htag, true_and]
    rw [← hstr, Option.isSome_iff_exists]
    exact ⟨fun ⟨y, s, hy, _⟩ => ⟨(y, s), hy⟩, fun ⟨y, hy⟩ => ⟨y.1, y.2, hy, rfl⟩⟩
  · rw [if_pos htag]
    exact iff_of_true rfl fun h => absurd h.1 htag

theorem fixed_isSome {α : Type} {k : Nat} {tag length : UInt32} {old : α}
    {body : BitM (UnpackResult × α)} (hdata : k + 2 ≤ stream.data.length)
    (hbody : (body (stream.moveTo (k + 2))).isSome) :
    (unpackFixed tag length old body (stream.moveTo k)).isSome := by
  obtain ⟨⟨x, s⟩, hx⟩ := Option.isSome_iff_exists.1
    (uint8_isSome stream k (by omega))
  obtain ⟨rfl, rfl⟩ := uint8_eq_some hx
  obtain ⟨⟨y, s⟩, hy⟩ := Option.isSome_iff_exists.1
    (uint8_isSome stream (k + 1) (by omega))
  obtain ⟨rfl, rfl⟩ := uint8_eq_some hy
  rw [unpackFixed, bind_run hx]
  by_cases htag : stream.word8 k = tag
  · rw [if_neg (not_not_intro htag), bind_run hy]
    by_cases hlen : stream.word8 (k + 1) = length
    · rw [if_neg (not_not_intro hlen)]
      exact hbody
    · rw [if_pos hlen]
      rfl
  · rw [if_pos htag]
    rfl

theorem address_isSome {k : Nat} (address : NetAddr) (hdata : k + 8 ≤ stream.data.length) :
    (transactionProtocolUnpackAttributeAddress address (stream.moveTo k)).isSome :=
  fixed_isSome (by omega) ((Fixed.isSome (fixed_uint16Endian.bind fun _ =>
    fixed_uint32Endian.map _) _).2 hdata)

theorem seconds_isSome {k : Nat} (seconds : Int) (hdata : k + 6 ≤ stream.data.length) :
    (transactionProtocolUnpackAttributeSeconds seconds (stream.moveTo k)).isSome :=
  fixed_isSome (by omega) ((Fixed.isSome (fixed_uint32.map _) _).2 hdata)

theorem count_isSome (stream : Bitstream) (k : Nat) (count : UInt32)
    (hdata : k + 4 ≤ stream.data.length) :
    (transactionProtocolUnpackAttributeCount count (stream.moveTo k)).isSome :=
  fixed_isSome (by omega) ((Fixed.isSome (fixed_uint16.map _) _).2 hdata)

end Decoders

end UniversalNetwork
