import UniversalNetwork.StunProtocol.Attributes

/-!
# Framing of a body

The loop of `stunProtocolUnpackBindingResponseBody` counts the declared lengths and the readers move
the offset; nothing compares the two. `AttributesRead` is a run of the loop with the headers that
were read, each at the offset where it was read.

* `AttributesRead.at`, `AttributesAt.read`: the record of a run is what `AttributesAt` says of the
  bytes.
* `attributesAt_framed_iff`: the headers are where the declared lengths put them exactly when every
  attribute declares what is read of it.
* `body_framed_iff`: so for a whole body, whose length must also be positive as an `int`.
-/

namespace UniversalNetwork

open Lib

/-! ## Runs of the loop -/

inductive AttributesRead : Bitstream → Nat → StunBindingResponse → List StunAttribute →
    Bitstream → StunBindingResponse → Prop
  | done {stream : Bitstream} {response : StunBindingResponse} :
    AttributesRead stream 0 response [] stream response
  | turn {stream s₁ s₂ s₃ stream' : Bitstream} {remaining : Nat} {type length : UInt32}
    {response r response' : StunBindingResponse} {attributes : List StunAttribute}
    (hremaining : remaining ≠ 0)
    (htype : bitstreamReadUint16 stream = some (type, s₁))
    (hlength : bitstreamReadUint16 s₁ = some (length, s₂))
    (hvalue : stunUnpackAttribute type length response s₂ = some ((.valid, r), s₃))
    (hrest : AttributesRead s₃ (remaining - length.toNat - 4) r attributes stream' response') :
    AttributesRead stream remaining response (⟨stream.offset, type, length⟩ :: attributes)
      stream' response'

section Read

variable {stream stream' : Bitstream} {remaining k : Nat} {attributes : List StunAttribute}
  {response response' : StunBindingResponse}

theorem AttributesRead.at
    (h : AttributesRead stream remaining response attributes stream' response') :
    AttributesAt stream stream.offset remaining attributes stream'.offset := by
  suffices ∀ s k, stream = Bitstream.moveTo s k →
      AttributesAt s k remaining attributes stream'.offset by
    exact this stream stream.offset rfl
  induction h with
  | done =>
    rintro s k rfl
    exact .done
  | turn hremaining htype hlength hvalue hrest ih =>
    rintro s k rfl
    obtain ⟨rfl, rfl⟩ := uint16_eq_some htype
    have hheader := (fixed_uint16.isSome _).1 (Option.isSome_iff_exists.2 ⟨_, hlength⟩)
    obtain ⟨rfl, rfl⟩ := uint16_eq_some hlength
    obtain ⟨haccepted, -, rfl⟩ := (unpackAttribute_valid_iff (s.attributeAt k)).1 hvalue
    exact .next hremaining hheader haccepted (ih s _ rfl)

theorem AttributesAt.read {l : Nat} (h : AttributesAt stream k remaining attributes l)
    (response : StunBindingResponse) :
    AttributesRead (stream.moveTo k) remaining response attributes (stream.moveTo l)
      (storeAttributes stream attributes response) := by
  induction h generalizing response with
  | done => exact .done
  | @next k remaining l attributes hremaining hheader haccepted _ ih =>
    have hlength : bitstreamReadUint16 (stream.moveTo (k + 2)) =
        some (stream.word16 (k + 2), stream.moveTo (k + 4)) := uint16_at hheader
    exact .turn hremaining (uint16_at (by omega)) hlength (unpackAttribute_at haccepted) (ih _)

theorem AttributesAt.head {l : Nat} {a : StunAttribute}
    (h : AttributesAt stream k remaining (a :: attributes) l) : a.offset = k := by
  cases h
  rfl

theorem AttributesAt.of_nil {l : Nat} (h : AttributesAt stream k remaining [] l) : k = l := by
  cases h
  rfl

end Read

/-! ## Declared lengths -/

/-- The first attribute starts at `k`, each of the others where the one before it ends by its
declared length, and `l` is the end of the last. -/
def Chained : Nat → List StunAttribute → Nat → Prop
  | k, [], l => k = l
  | k, a :: attributes, l => a.offset = k ∧ Chained a.declaredEnd attributes l

theorem Chained.le {k l : Nat} {attributes : List StunAttribute} (h : Chained k attributes l) :
    k ≤ l := by
  induction attributes generalizing k with
  | nil => exact Nat.le_of_eq h
  | cons a attributes ih =>
    obtain ⟨rfl, hrest⟩ := h
    have := ih hrest
    rw [StunAttribute.declaredEnd] at this
    omega

/-- The attribute is in the stream and declares what the decoder reads of it: 8 bytes of an address,
4 of an error code, and of any other type no more than the stream has. -/
structure StunAttribute.Declares (stream : Bitstream) (a : StunAttribute) : Prop where
  header : a = stream.attributeAt a.offset
  address : StunAddressType a.type → a.length.toNat = 8
  error : a.type = StunAttributeType.errorCode.code → a.length.toNat = 4
  other : ¬ StunAddressType a.type → a.type ≠ StunAttributeType.errorCode.code →
    a.declaredEnd ≤ stream.bound

theorem not_addressType_error : ¬ StunAddressType StunAttributeType.errorCode.code := by decide

theorem StunAttribute.declares_iff {stream : Bitstream} (hbound : stream.bound < 2 ^ 64) (k : Nat) :
    (stream.attributeAt k).Declares stream ↔
      (stream.attributeAt k).readEnd stream = (stream.attributeAt k).declaredEnd := by
  have hskip : stream.skipped (k + 4) (stream.word16 (k + 2)).toNat =
      k + 4 + (stream.word16 (k + 2)).toNat ↔
      k + 4 + (stream.word16 (k + 2)).toNat ≤ stream.bound := Bitstream.skipped_eq_iff hbound
  by_cases haddress : StunAddressType (stream.word16 k)
  · have herror : stream.word16 k ≠ StunAttributeType.errorCode.code := by
      intro herror
      rw [herror] at haddress
      exact not_addressType_error haddress
    have hread : (stream.attributeAt k).readEnd stream = k + 4 + 8 := if_pos haddress
    rw [hread]
    constructor
    · intro h
      exact congrArg (k + 4 + ·) (h.address haddress).symm
    · intro h
      exact ⟨rfl, fun _ => (Nat.add_left_cancel h).symm, fun h' => absurd h' herror,
        fun h' => absurd haddress h'⟩
  by_cases herror : stream.word16 k = StunAttributeType.errorCode.code
  · have hread : (stream.attributeAt k).readEnd stream = k + 4 + 4 :=
      (if_neg haddress).trans (if_pos herror)
    rw [hread]
    constructor
    · intro h
      exact congrArg (k + 4 + ·) (h.error herror).symm
    · intro h
      exact ⟨rfl, fun h' => absurd h' haddress, fun _ => (Nat.add_left_cancel h).symm,
        fun _ h' => absurd herror h'⟩
  · have hread : (stream.attributeAt k).readEnd stream =
        stream.skipped (k + 4) (stream.word16 (k + 2)).toNat :=
      (if_neg haddress).trans (if_neg herror)
    rw [hread]
    constructor
    · intro h
      exact hskip.2 (h.other haddress herror)
    · intro h
      exact ⟨rfl, fun h' => absurd h' haddress, fun h' => absurd h' herror,
        fun _ _ => hskip.1 h⟩

/-- **The headers are where the declared lengths put them** exactly when the bytes are cut by them
into attributes that declare what is read. -/
theorem attributesAt_framed_iff {stream : Bitstream} (hbound : stream.bound < 2 ^ 64)
    {k remaining l : Nat} {attributes : List StunAttribute}
    (h : AttributesAt stream k remaining attributes l) :
    Chained k attributes (k + remaining) ∧ l = k + remaining ↔
      ∃ declared, Chained k declared (k + remaining) ∧ ∀ a ∈ declared, a.Declares stream := by
  induction h with
  | done => exact iff_of_true ⟨rfl, rfl⟩ ⟨[], rfl, by simp⟩
  | @next k remaining l attributes hremaining hheader haccepted hrest ih =>
    have hlength : (stream.attributeAt k).declaredEnd =
        k + 4 + (stream.attributeAt k).length.toNat := rfl
    constructor
    · rintro ⟨⟨-, hchain⟩, rfl⟩
      have hle := hchain.le
      have hend : (stream.attributeAt k).readEnd stream =
          (stream.attributeAt k).declaredEnd := by
        cases attributes with
        | nil =>
          have hchain : (stream.attributeAt k).declaredEnd = k + remaining := hchain
          rw [hrest.of_nil, hchain]
        | cons a attributes =>
          rw [← hchain.1, hrest.head]
      have hsum : (stream.attributeAt k).declaredEnd +
          (remaining - (stream.attributeAt k).length.toNat - 4) = k + remaining := by omega
      rw [hend, hsum] at ih
      obtain ⟨declared, hdeclared, hall⟩ := ih.1 ⟨hchain, rfl⟩
      refine ⟨stream.attributeAt k :: declared, ⟨rfl, hdeclared⟩, ?_⟩
      exact List.forall_mem_cons.2 ⟨(StunAttribute.declares_iff hbound k).2 hend, hall⟩
    · rintro ⟨declared, hchain, hall⟩
      cases declared with
      | nil =>
        have : k = k + remaining := hchain
        omega
      | cons a declared =>
        obtain ⟨ha, hdeclared⟩ := List.forall_mem_cons.1 hall
        obtain ⟨hoffset, hchain⟩ := hchain
        obtain rfl : a = stream.attributeAt k := hoffset ▸ ha.header
        have hend := (StunAttribute.declares_iff hbound k).1 ha
        have hle := hchain.le
        have hsum : (stream.attributeAt k).declaredEnd +
            (remaining - (stream.attributeAt k).length.toNat - 4) = k + remaining := by omega
        rw [hend, hsum] at ih
        obtain ⟨hattributes, rfl⟩ := ih.2 ⟨declared, hchain, hdeclared⟩
        exact ⟨⟨rfl, hattributes⟩, rfl⟩

/-! ## Bodies -/

/-- A run of the body that read each header where the attribute before it ends, and that stopped at
the end of the body. -/
def FramedRun (stream : Bitstream) (length : UInt32) (response : StunBindingResponse)
    (stream' : Bitstream) : Prop :=
  ∃ attributes, AttributesRead stream (stunRemainingBytes length) .zeroed attributes stream'
      response ∧
    Chained stream.offset attributes (stream.offset + length.toNat) ∧
    stream'.offset = stream.offset + length.toNat

/-- The `length` bytes at the offset are attributes by their declared lengths, and each declares
what is read of it. -/
def WellDeclared (stream : Bitstream) (length : UInt32) : Prop :=
  length.toNat < 2 ^ 31 ∧ ∃ declared, Chained stream.offset declared
    (stream.offset + length.toNat) ∧ ∀ a ∈ declared, a.Declares stream

section Body

variable {stream stream' : Bitstream} {length : UInt32} {response : StunBindingResponse}

theorem FramedRun.wellDeclared (hbound : stream.bound < 2 ^ 64)
    (h : FramedRun stream length response stream') : WellDeclared stream length := by
  obtain ⟨attributes, hread, hchain, hl⟩ := h
  have hat := hread.at
  rw [stunRemainingBytes_eq] at hat
  by_cases hlength : length.toNat < 2 ^ 31
  · rw [if_pos hlength] at hat
    exact ⟨hlength, (attributesAt_framed_iff hbound hat).1 ⟨hchain, hl⟩⟩
  · -- The `int` is negative, so nothing is read.
    rw [if_neg hlength] at hat
    rw [(attributesAt_zero_iff.1 hat).1] at hchain
    have hzero : stream.offset = stream.offset + length.toNat := hchain
    omega

theorem WellDeclared.framedRun (hbound : stream.bound < 2 ^ 64) (h : WellDeclared stream length)
    (hvalid : stunProtocolUnpackBindingResponseBody length stream =
      some ((.valid, response), stream')) : FramedRun stream length response stream' := by
  obtain ⟨hlength, hdeclared⟩ := h
  obtain ⟨attributes, l, hat, rfl, rfl⟩ :=
    (unpackAttributes_valid_iff (k := stream.offset) (Nat.le_refl _)).1 hvalid
  have hread := hat.read .zeroed
  rw [stunRemainingBytes_eq, if_pos hlength] at hat
  obtain ⟨hchain, hl⟩ := (attributesAt_framed_iff hbound hat).2 hdeclared
  exact ⟨attributes, hread, hchain, hl⟩

/-- **A body that is accepted is framed exactly when its attributes are well declared.** -/
theorem body_framed_iff (hbound : stream.bound < 2 ^ 64)
    (hvalid : stunProtocolUnpackBindingResponseBody length stream =
      some ((.valid, response), stream')) :
    FramedRun stream length response stream' ↔ WellDeclared stream length :=
  ⟨fun h => h.wellDeclared hbound, fun h => h.framedRun hbound hvalid⟩

end Body

/-- The response with only a mapped address, 10.0.0.7:3333. -/
def mappedResponse : StunBindingResponse :=
  { StunBindingResponse.zeroed with
    mappedAddressAddr := netAddrSet 0x0a000007 0x0d05 true, hasMappedAddress := true }

/-- The mapped address, then 4 bytes of a type that the decoder skips, then error 401. -/
def threeAttributes : List UInt8 :=
  [0, 1, 0, 8, 0, 1, 13, 5, 10, 0, 0, 7] ++ [0x80, 0x22, 0, 4, 1, 2, 3, 4] ++
    [0, 9, 0, 4, 1, 0x80, 0, 0]

theorem body_framed_three :
    let stream := bitstreamCreate threeAttributes 28
    let response := { mappedResponse with errorCodeValue := 401, hasErrorCode := true }
    FramedRun stream 28 response (stream.moveTo 28) ↔ WellDeclared stream 28 :=
  body_framed_iff (by decide) (by decide +kernel)

/-- A MAPPED-ADDRESS that declares 4 bytes, in a body of 8: the decoder reads 12. -/
theorem body_misframed :
    let stream := bitstreamCreate [0, 1, 0, 4, 0, 1, 13, 5, 10, 0, 0, 7] 12
    stunProtocolUnpackBindingResponseBody 8 stream =
      some ((.valid, mappedResponse), stream.moveTo 12) ∧
    ¬ FramedRun stream 8 mappedResponse (stream.moveTo 12) := by
  refine ⟨by decide +kernel, ?_⟩
  rintro ⟨attributes, -, -, hl⟩
  exact absurd hl (by decide)

end UniversalNetwork
