import UniversalNetwork.StunProtocol.Body

/-!
# Error codes

The class and the number of an error code are the lowest 11 bits of its word. The decoder shifts the
word right by 21 before it takes them, so that they are 0, and it goes on after the word, in the
phrase that follows it.

* `body_errorCode`: the loop up to the word of an error code, as an equation.
* `errorCode_decoded_iff`: which codes are decoded.
-/

namespace UniversalNetwork

open Lib

/-- An ERROR-CODE attribute: 21 zero bits, the class `c`, the number `n`, and the phrase. -/
def wireErrorCode (c n : Nat) (reason : List UInt8) : List UInt8 :=
  wire16 StunAttributeType.errorCode.code ++ (wire16 (UInt32.ofNat (4 + reason.length)) ++
    (wire32 (UInt32.ofNat (c * 256 + n)) ++ reason))

theorem length_wireErrorCode (c n : Nat) (reason : List UInt8) :
    (wireErrorCode c n reason).length = 8 + reason.length := by
  simp [wireErrorCode, wire16, wire32]
  omega

/-- A body with one error code. -/
def wireErrorBody (pre : List BodyAttribute) (c n : Nat) (reason : List UInt8)
    (post : List BodyAttribute) : List UInt8 :=
  wireBody pre ++ (wireErrorCode c n reason ++ wireBody post)

/-- The code of the last ERROR-CODE attribute of those that the loop met. -/
def lastErrorCode (stream : Bitstream) : List StunAttribute → Option Int
  | [] => none
  | a :: attributes => (lastErrorCode stream attributes).or
    (if a.type = StunAttributeType.errorCode.code then some (stream.stunErrorCode (a.offset + 4))
      else none)

section Store

variable (stream : Bitstream)

theorem store_errorCode (a : StunAttribute) (response : StunBindingResponse) :
    ((a.store stream response).hasErrorCode = true ↔
      response.hasErrorCode = true ∨ a.type = StunAttributeType.errorCode.code) ∧
    (a.store stream response).errorCodeValue =
      (if a.type = StunAttributeType.errorCode.code then some (stream.stunErrorCode (a.offset + 4))
        else none).getD response.errorCodeValue := by
  by_cases herror : a.type = StunAttributeType.errorCode.code
  · simp [StunAttribute.store, herror, StunAttributeType.code]
  · simp only [StunAttribute.store, herror, if_false, or_false, Option.getD_none]
    split
    · exact ⟨Iff.rfl, rfl⟩
    split
    · exact ⟨Iff.rfl, rfl⟩
    split
    · exact ⟨Iff.rfl, rfl⟩
    split
    · exact ⟨Iff.rfl, rfl⟩
    · exact ⟨Iff.rfl, rfl⟩

/-- A code that was noted stays noted, with the last value. -/
theorem storeAttributes_errorCode (attributes : List StunAttribute)
    (response : StunBindingResponse) (h : response.hasErrorCode = true) :
    (storeAttributes stream attributes response).hasErrorCode = true ∧
    (storeAttributes stream attributes response).errorCodeValue =
      (lastErrorCode stream attributes).getD response.errorCodeValue := by
  induction attributes generalizing response with
  | nil => exact ⟨h, rfl⟩
  | cons a attributes ih =>
    obtain ⟨hhas, hvalue⟩ := store_errorCode stream a response
    obtain ⟨hhas', hvalue'⟩ := ih (a.store stream response) (hhas.2 (.inl h))
    refine ⟨hhas', ?_⟩
    rw [lastErrorCode]
    refine hvalue'.trans ?_
    rw [hvalue]
    cases lastErrorCode stream attributes <;> rfl

end Store

section ErrorCode

variable {stream : Bitstream} {k c n : Nat} {reason : List UInt8}

/-- **All bits of a code are shifted out.** -/
theorem stunErrorCode_eq_zero (hc : c < 8) (hn : n < 256)
    (h : stream.word32 k = UInt32.ofNat (c * 256 + n)) : stream.stunErrorCode k = 0 := by
  have hshift : stream.word32 k >>> 21 = 0 := by
    apply UInt32.toNat_inj.1
    rw [h, UInt32.toNat_shiftRight, UInt32.toNat_ofNat', Nat.mod_eq_of_lt (by omega),
      show (21 : UInt32).toNat % 32 = 21 by decide, Nat.shiftRight_eq_div_pow]
    exact Nat.div_eq_of_lt (by omega)
  rw [Bitstream.stunErrorCode, hshift]
  rfl

/-- The response with an error code of 0. -/
def StunBindingResponse.withZeroCode (response : StunBindingResponse) : StunBindingResponse :=
  { response with errorCodeValue := 0, hasErrorCode := true }

/-- The turn on an error code: the phrase is taken off the remaining bytes but not skipped. -/
theorem unpackAttributes_errorCode (hc : c < 8) (hn : n < 256)
    (hat : HasAt stream.data k (wireErrorCode c n reason)) (hreason : reason.length < 65528)
    {turns remaining : Nat} (response : StunBindingResponse) :
    stunUnpackAttributes (turns + 1) ((wireErrorCode c n reason).length + remaining) response
        (stream.moveTo k) =
      stunUnpackAttributes turns remaining response.withZeroCode (stream.moveTo (k + 8)) := by
  have hdata := hat.end_le (by rw [length_wireErrorCode]; omega)
  rw [length_wireErrorCode] at hdata ⊢
  obtain ⟨htype, hat⟩ := hasAt_append.1 hat
  obtain ⟨hlength, hat⟩ := hasAt_append.1 hat
  obtain ⟨hword, -⟩ := hasAt_append.1 hat
  have htype : (stream.attributeAt k).type = StunAttributeType.errorCode.code :=
    word16_of_hasAt htype
  have hlength : (stream.attributeAt k).length.toNat = 4 + reason.length := by
    have hlen : (stream.attributeAt k).length = _ := word16_of_hasAt hlength
    rw [hlen]
    simp
    omega
  have haddress : ¬ StunAddressType (stream.attributeAt k).type := by
    rw [htype]
    decide
  have hcode : stream.stunErrorCode (k + 4) = 0 :=
    stunErrorCode_eq_zero hc hn (word32_of_hasAt hword)
  have haccepted : (stream.attributeAt k).Accepted stream :=
    ⟨fun h => absurd h haddress, fun _ => by
      change k + 4 + 4 ≤ stream.data.length
      omega⟩
  have hstore : (stream.attributeAt k).store stream response = response.withZeroCode := by
    simp only [StunAddressType, not_or] at haddress
    obtain ⟨hmapped, hxor, halternate, hother, horigin⟩ := haddress
    rw [StunAttribute.store, if_neg hmapped, if_neg hxor, if_neg (not_or.2 ⟨halternate, hother⟩),
      if_neg horigin, if_pos htype]
    exact congrArg (fun value => { response with errorCodeValue := value, hasErrorCode := true })
      hcode
  have hend : (stream.attributeAt k).readEnd stream = k + 8 := by
    rw [StunAttribute.readEnd, if_neg haddress, if_pos htype]
    rfl
  have hrest : 8 + reason.length + remaining - (stream.attributeAt k).length.toNat - 4 =
      remaining := by omega
  rw [unpackAttributes_turn (by omega) (by omega) haccepted, hstore, hend, hrest]

/-! ## Bodies with an error code -/

variable {pre post : List BodyAttribute}

/-- The loop up to the word of the error code: what is left are the bytes after it, as many as the
later attributes have. -/
theorem body_errorCode (hbound : stream.bound < 2 ^ 64) (hc : c < 8) (hn : n < 256)
    (hat : HasAt stream.data stream.offset (wireErrorBody pre c n reason post))
    (hfit : stream.offset + (wireErrorBody pre c n reason post).length ≤ stream.bound)
    (hlength : (wireErrorBody pre c n reason post).length < 65536) :
    ∃ response turns, response.hasErrorCode = true ∧ response.errorCodeValue = 0 ∧
      (wireBody post).length ≤ turns ∧
      stunProtocolUnpackBindingResponseBody
          (UInt32.ofNat (wireErrorBody pre c n reason post).length) stream =
        stunUnpackAttributes turns (wireBody post).length response
          (stream.moveTo (stream.offset + (wireBody pre).length + 8)) := by
  rw [stunProtocolUnpackBindingResponseBody, (stunRemainingBytes_ofNat hlength).2]
  rw [wireErrorBody] at hat hfit hlength ⊢
  have herrorLength := length_wireErrorCode c n reason
  rw [List.length_append, List.length_append] at hfit hlength ⊢
  obtain ⟨hpre, hat⟩ := hasAt_append.1 hat
  obtain ⟨herror, -⟩ := hasAt_append.1 hat
  have hloop : stunUnpackAttributes _ _ .zeroed (stream.moveTo stream.offset) = _ :=
    unpackAttributes_wire hbound pre hpre (by omega) (by omega) (Nat.le_refl _)
      (Nat.le_succ ((wireErrorCode c n reason).length + (wireBody post).length))
  exact ⟨_, _, rfl, rfl, by omega,
    hloop.trans (unpackAttributes_errorCode hc hn herror (by omega) _)⟩

/-- The body is valid and the response has the code. -/
def DecodesErrorCode (stream : Bitstream) (length : UInt32) (c n : Nat) : Prop :=
  ∃ response stream', stunProtocolUnpackBindingResponseBody length stream =
      some ((.valid, response), stream') ∧
    response.hasErrorCode = true ∧ response.errorCodeValue = 100 * c + n

/-- What the code decodes to: 0, unless later bytes are taken for an error code. -/
theorem errorCode_decoded (hbound : stream.bound < 2 ^ 64) (hc : c < 8) (hn : n < 256)
    (hat : HasAt stream.data stream.offset (wireErrorBody pre c n reason post))
    (hfit : stream.offset + (wireErrorBody pre c n reason post).length ≤ stream.bound)
    (hlength : (wireErrorBody pre c n reason post).length < 65536) :
    DecodesErrorCode stream (UInt32.ofNat (wireErrorBody pre c n reason post).length) c n ↔
      ∃ attributes l, AttributesAt stream (stream.offset + (wireBody pre).length + 8)
          (wireBody post).length attributes l ∧
        (lastErrorCode stream attributes).getD 0 = 100 * c + n := by
  obtain ⟨response, turns, hhas, hvalue, hturns, hbody⟩ :=
    body_errorCode hbound hc hn hat hfit hlength
  rw [DecodesErrorCode, hbody]
  constructor
  · rintro ⟨response', stream', hrun, -, hcode⟩
    obtain ⟨attributes, l, hat, rfl, -⟩ := (unpackAttributes_valid_iff hturns).1 hrun
    rw [(storeAttributes_errorCode stream attributes response hhas).2, hvalue] at hcode
    exact ⟨attributes, l, hat, hcode⟩
  · rintro ⟨attributes, l, hat, hcode⟩
    obtain ⟨hhas', hvalue'⟩ := storeAttributes_errorCode stream attributes response hhas
    rw [hvalue] at hvalue'
    exact ⟨_, _, (unpackAttributes_valid_iff hturns).2 ⟨attributes, l, hat, rfl, rfl⟩, hhas',
      hvalue'.trans hcode⟩

/-- With no phrase, or nothing after it, the loop stays in step. -/
theorem errorCode_decoded_inStep (hbound : stream.bound < 2 ^ 64) (hc : c < 8) (hn : n < 256)
    (hat : HasAt stream.data stream.offset (wireErrorBody pre c n reason post))
    (hfit : stream.offset + (wireErrorBody pre c n reason post).length ≤ stream.bound)
    (hlength : (wireErrorBody pre c n reason post).length < 65536)
    (hstep : reason = [] ∨ post = []) :
    DecodesErrorCode stream (UInt32.ofNat (wireErrorBody pre c n reason post).length) c n ↔
      c = 0 ∧ n = 0 := by
  obtain ⟨response, turns, hhas, hvalue, hturns, hbody⟩ :=
    body_errorCode hbound hc hn hat hfit hlength
  have hrest : ∃ response' stream', stunUnpackAttributes turns (wireBody post).length response
      (stream.moveTo (stream.offset + (wireBody pre).length + 8)) =
        some ((.valid, response'), stream') ∧
      response'.hasErrorCode = true ∧ response'.errorCodeValue = 0 := by
    rcases hstep with rfl | rfl
    · have herrorLength := length_wireErrorCode c n []
      rw [wireErrorBody] at hat hfit hlength
      rw [List.length_append, List.length_append, herrorLength, List.length_nil] at hfit hlength
      have hpost := (hasAt_append.1 (hasAt_append.1 hat).2).2
      rw [herrorLength] at hpost
      have hloop : stunUnpackAttributes turns ((wireBody post).length + 0) response _ = _ :=
        unpackAttributes_wire hbound post hpost (by simp only [List.length_nil]; omega) (by omega)
          hturns (Nat.le_refl 0)
      obtain ⟨hhas', hvalue'⟩ := respondAll_error post response
      exact ⟨_, _, hloop, hhas'.trans hhas, hvalue'.trans hvalue⟩
    · have hnil : (wireBody []).length = 0 := rfl
      rw [hnil, stunUnpackAttributes_turns (Nat.zero_le turns) (Nat.le_refl 0)]
      exact ⟨_, _, rfl, hhas, hvalue⟩
  obtain ⟨response', stream', hrun, hhas', hvalue'⟩ := hrest
  rw [DecodesErrorCode, hbody, hrun]
  constructor
  · rintro ⟨_, _, he, -, hcode⟩
    cases he
    omega
  · rintro ⟨rfl, rfl⟩
    exact ⟨response', stream', rfl, hhas', hvalue'⟩

/-- **Which error codes are decoded**: 0 alone, unless the phrase and the attributes after it are
taken for other attributes, the last error code of which is by chance the right one. -/
theorem errorCode_decoded_iff (hbound : stream.bound < 2 ^ 64) (hc : c < 8) (hn : n < 256)
    (hat : HasAt stream.data stream.offset (wireErrorBody pre c n reason post))
    (hfit : stream.offset + (wireErrorBody pre c n reason post).length ≤ stream.bound)
    (hlength : (wireErrorBody pre c n reason post).length < 65536) :
    DecodesErrorCode stream (UInt32.ofNat (wireErrorBody pre c n reason post).length) c n ↔
      (reason = [] ∨ post = []) ∧ c = 0 ∧ n = 0 ∨
      ¬ (reason = [] ∨ post = []) ∧ ∃ attributes l, AttributesAt stream
          (stream.offset + (wireBody pre).length + 8) (wireBody post).length attributes l ∧
        (lastErrorCode stream attributes).getD 0 = 100 * c + n := by
  by_cases hstep : reason = [] ∨ post = []
  · rw [errorCode_decoded_inStep hbound hc hn hat hfit hlength hstep]
    simp only [hstep, true_and, not_true_eq_false, false_and, or_false]
  · rw [errorCode_decoded hbound hc hn hat hfit hlength]
    simp only [hstep, false_and, false_or, not_false_eq_true, true_and]

end ErrorCode

/-- The code 0 with the phrase "OK", after a MAPPED-ADDRESS. -/
def okBody : List UInt8 := wireErrorBody [.address .mapped 0x0d05 0x0a000007] 0 0 [79, 75] []

theorem errorCode_decoded_ok :
    DecodesErrorCode (bitstreamCreate okBody 22) (UInt32.ofNat okBody.length) 0 0 ↔
      ([79, 75] = ([] : List UInt8) ∨ ([] : List BodyAttribute) = []) ∧ 0 = 0 ∧ 0 = 0 ∨
      ¬ ([79, 75] = ([] : List UInt8) ∨ ([] : List BodyAttribute) = []) ∧
        ∃ attributes l, AttributesAt (bitstreamCreate okBody 22)
            ((bitstreamCreate okBody 22).offset +
              (wireBody [.address .mapped 0x0d05 0x0a000007]).length + 8)
            (wireBody []).length attributes l ∧
          (lastErrorCode (bitstreamCreate okBody 22) attributes).getD 0 =
            100 * ((0 : Nat) : Int) + (0 : Nat) := by
  have hbound : (bitstreamCreate okBody 22).bound < 2 ^ 64 := by decide
  have hlength : okBody.length = 22 := by decide
  have hfit : (bitstreamCreate okBody 22).offset + okBody.length ≤ 22 := by
    rw [hlength]
    decide
  exact errorCode_decoded_iff hbound (by decide) (by decide) (List.prefix_refl okBody) hfit
    (by change okBody.length < 65536; omega)

/-- A code of 401 alone in the body is decoded as 0. -/
theorem errorCode_unauthorized :
    ¬ DecodesErrorCode (bitstreamCreate [0, 9, 0, 4, 0, 0, 4, 1] 8) 8 4 1 := by
  rintro ⟨response, stream', hrun, -, hcode⟩
  have hzero : stunProtocolUnpackBindingResponseBody 8
      (bitstreamCreate [0, 9, 0, 4, 0, 0, 4, 1] 8) =
      some ((.valid, StunBindingResponse.zeroed.withZeroCode),
        ⟨[0, 9, 0, 4, 0, 0, 4, 1], 8, 8⟩) := by
    decide
  rw [hzero] at hrun
  cases hrun
  exact absurd hcode (by decide)

end UniversalNetwork
