import UniversalNetwork.StunProtocol.Attributes

/-!
# Well-formed bodies

`BodyAttribute` is an attribute with an IPv4 address or one of a type that the decoder does not
know, and `wireBody` the bytes of a list of them. On these bytes each turn of the loop takes off
what the readers consume.

* `unpackAttributes_wire`: the loop on a body, and on a part of one, as an equation.
* `body_addresses`: every address type that occurs is noted, with the last address.
-/

namespace UniversalNetwork

open Lib

/-! ## Bodies -/

/-- The attributes with an address. -/
inductive StunAddressKind
  | mapped
  | xorMapped
  | alternateServer
  | otherAddress
  | responseOrigin
deriving DecidableEq, Repr

/-- The addresses of a response; ALTERNATE-SERVER and OTHER-ADDRESS share one. -/
inductive StunAddressSlot
  | mapped
  | xorMapped
  | alternateServer
  | responseOrigin
deriving DecidableEq, Repr

namespace StunAddressKind

def code : StunAddressKind → UInt32
  | mapped => StunAttributeType.mappedAddress.code
  | xorMapped => StunAttributeType.xorMappedAddress.code
  | alternateServer => StunAttributeType.alternateServer.code
  | otherAddress => StunAttributeType.otherAddress.code
  | responseOrigin => StunAttributeType.originServer.code

def slot : StunAddressKind → StunAddressSlot
  | mapped => .mapped
  | xorMapped => .xorMapped
  | alternateServer | otherAddress => .alternateServer
  | responseOrigin => .responseOrigin

/-- The address that a port and a host on the wire stand for, in network order. -/
def addr (port : UInt16) (host : UInt32) : StunAddressKind → NetAddr
  | xorMapped => netAddrSet (host ^^^ 0x2112A442) (port ^^^ 0x2112) true
  | _ => netAddrSet host port true

end StunAddressKind

inductive BodyAttribute
  | address (kind : StunAddressKind) (port : UInt16) (host : UInt32)
  | unrecognised (type : UInt16) (value : List UInt8)
    (h : ¬ StunAddressType type.toUInt32 ∧ type.toUInt32 ≠ StunAttributeType.errorCode.code)

namespace BodyAttribute

def wire : BodyAttribute → List UInt8
  | address kind port host => wire16 kind.code ++ (wire16 8 ++
      (wire16 kStunAddrFamilyIPv4 ++ (wire16 port.toUInt32 ++ wire32 host)))
  | unrecognised type value _ => wire16 type.toUInt32 ++ (wire16 (UInt32.ofNat value.length) ++
      value)

/-- The address of the attribute, when it is one for this place of the response. -/
def addressIn (slot : StunAddressSlot) : BodyAttribute → Option NetAddr
  | address kind port host => if kind.slot = slot then some (kind.addr port host) else none
  | unrecognised _ _ _ => none

end BodyAttribute

def wireBody (attributes : List BodyAttribute) : List UInt8 :=
  attributes.flatMap BodyAttribute.wire

/-- The address of the last attribute for this place. -/
def lastAddress (slot : StunAddressSlot) : List BodyAttribute → Option NetAddr
  | [] => none
  | a :: attributes => (lastAddress slot attributes).or (a.addressIn slot)

namespace StunBindingResponse

def has (response : StunBindingResponse) : StunAddressSlot → Bool
  | .mapped => response.hasMappedAddress
  | .xorMapped => response.hasXorMappedAddress
  | .alternateServer => response.hasAlternateServer
  | .responseOrigin => response.hasResponseOrigin

def addr (response : StunBindingResponse) : StunAddressSlot → NetAddr
  | .mapped => response.mappedAddressAddr
  | .xorMapped => response.xorMappedAddressAddr
  | .alternateServer => response.alternateServerAddr
  | .responseOrigin => response.responseOriginAddr

def withAddr (response : StunBindingResponse) (addr : NetAddr) :
    StunAddressSlot → StunBindingResponse
  | .mapped => { response with mappedAddressAddr := addr, hasMappedAddress := true }
  | .xorMapped => { response with xorMappedAddressAddr := addr, hasXorMappedAddress := true }
  | .alternateServer => { response with alternateServerAddr := addr, hasAlternateServer := true }
  | .responseOrigin => { response with responseOriginAddr := addr, hasResponseOrigin := true }

end StunBindingResponse

/-- The response with what the attribute says. -/
def BodyAttribute.respond (response : StunBindingResponse) : BodyAttribute → StunBindingResponse
  | address kind port host => response.withAddr (kind.addr port host) kind.slot
  | unrecognised _ _ _ => response

theorem respond_slot (response : StunBindingResponse) (a : BodyAttribute)
    (slot : StunAddressSlot) :
    (a.respond response).has slot = (response.has slot || (a.addressIn slot).isSome) ∧
      (a.respond response).addr slot = (a.addressIn slot).getD (response.addr slot) := by
  cases a with
  | unrecognised type value h => exact ⟨(Bool.or_false _).symm, rfl⟩
  | address kind port host =>
    rw [BodyAttribute.respond, BodyAttribute.addressIn]
    generalize kind.addr port host = addr
    by_cases hslot : kind.slot = slot
    · rw [if_pos hslot, hslot]
      cases slot <;> simp [StunBindingResponse.withAddr, StunBindingResponse.has,
        StunBindingResponse.addr]
    · rw [if_neg hslot]
      generalize kind.slot = slot' at hslot
      cases slot <;> cases slot' <;> first
        | exact absurd rfl hslot
        | exact ⟨(Bool.or_false _).symm, rfl⟩

theorem respondAll_slot (attributes : List BodyAttribute) (response : StunBindingResponse)
    (slot : StunAddressSlot) :
    (attributes.foldl BodyAttribute.respond response).has slot =
        (response.has slot || (lastAddress slot attributes).isSome) ∧
      (attributes.foldl BodyAttribute.respond response).addr slot =
        (lastAddress slot attributes).getD (response.addr slot) := by
  induction attributes generalizing response with
  | nil => exact ⟨(Bool.or_false _).symm, rfl⟩
  | cons a attributes ih =>
    obtain ⟨hhas, haddr⟩ := ih (a.respond response)
    obtain ⟨hhas', haddr'⟩ := respond_slot response a slot
    rw [List.foldl_cons, hhas, haddr, hhas', haddr', lastAddress]
    cases lastAddress slot attributes <;> simp

/-- No attribute of the list has an error code. -/
theorem respondAll_error (attributes : List BodyAttribute) (response : StunBindingResponse) :
    (attributes.foldl BodyAttribute.respond response).hasErrorCode = response.hasErrorCode ∧
      (attributes.foldl BodyAttribute.respond response).errorCodeValue =
        response.errorCodeValue := by
  induction attributes generalizing response with
  | nil => exact ⟨rfl, rfl⟩
  | cons a attributes ih =>
    have hstep : (a.respond response).hasErrorCode = response.hasErrorCode ∧
        (a.respond response).errorCodeValue = response.errorCodeValue := by
      cases a with
      | address kind port host => cases kind <;> exact ⟨rfl, rfl⟩
      | unrecognised type value h => exact ⟨rfl, rfl⟩
    rw [List.foldl_cons, (ih _).1, (ih _).2]
    exact hstep

/-! ## The loop on a body -/

namespace StunAddressKind

theorem addressType (kind : StunAddressKind) : StunAddressType kind.code := by
  cases kind <;> decide

theorem code_ne_error (kind : StunAddressKind) :
    kind.code ≠ StunAttributeType.errorCode.code := by
  cases kind <;> decide

theorem code_toUInt16 (kind : StunAddressKind) : kind.code.toUInt16.toUInt32 = kind.code := by
  cases kind <;> decide

end StunAddressKind

section Wire

variable {stream : Bitstream} {k : Nat}

/-- The parts of an address attribute at index `k`. -/
theorem words_address {kind : StunAddressKind} {port : UInt16} {host : UInt32}
    (hat : HasAt stream.data k (BodyAttribute.address kind port host).wire) :
    stream.word16 k = kind.code ∧ stream.word16 (k + 2) = 8 ∧
      stream.word16 (k + 4) = kStunAddrFamilyIPv4 ∧ stream.word16 (k + 6) = port.toUInt32 ∧
      stream.word32 (k + 8) = host := by
  obtain ⟨htype, hat⟩ := hasAt_append.1 hat
  obtain ⟨hlength, hat⟩ := hasAt_append.1 hat
  obtain ⟨hfamily, hat⟩ := hasAt_append.1 hat
  obtain ⟨hport, hhost⟩ := hasAt_append.1 hat
  refine ⟨?_, word16_of_hasAt hlength, word16_of_hasAt hfamily, ?_, word32_of_hasAt hhost⟩
  · rw [word16_of_hasAt htype, kind.code_toUInt16]
  · exact (word16_of_hasAt hport).trans (by simp)

theorem store_address {a : StunAttribute} {kind : StunAddressKind} (htype : a.type = kind.code)
    (response : StunBindingResponse) : a.store stream response =
      response.withAddr (if kind = .xorMapped then stream.stunXorAddr (a.offset + 4)
        else stream.stunAddr (a.offset + 4)) kind.slot := by
  cases kind <;> simp [StunAttribute.store, htype, StunAddressKind.code, StunAttributeType.code,
    StunBindingResponse.withAddr, StunAddressKind.slot]

/-- The attribute at index `k` is accepted, stores what it says and ends where the next starts. -/
structure TurnsOn (stream : Bitstream) (k : Nat) (a : BodyAttribute) : Prop where
  header : k + 4 ≤ stream.data.length
  accepted : (stream.attributeAt k).Accepted stream
  store : ∀ response, (stream.attributeAt k).store stream response = a.respond response
  readEnd : (stream.attributeAt k).readEnd stream = k + a.wire.length
  length : (stream.attributeAt k).length.toNat + 4 = a.wire.length

theorem turnsOn_address {kind : StunAddressKind} {port : UInt16} {host : UInt32}
    (hat : HasAt stream.data k (BodyAttribute.address kind port host).wire)
    (hdata : k + 12 ≤ stream.data.length) :
    TurnsOn stream k (.address kind port host) := by
  obtain ⟨htype, hlength, hfamily, hport, hhost⟩ := words_address hat
  have haddress : StunAddressType (stream.attributeAt k).type := by
    rw [Bitstream.attributeAt, htype]
    exact kind.addressType
  constructor
  · omega
  · refine ⟨fun _ => ⟨hfamily, hdata⟩, fun herror => absurd ?_ kind.code_ne_error⟩
    rw [← htype]
    exact herror
  · intro response
    have hxor : stream.stunXorAddr (k + 4) =
        netAddrSet (host ^^^ 0x2112A442) (port ^^^ 0x2112) true := by
      have hcookie : ((kStunProtocolMagicCookie >>> 16) &&& 0xFFFF).toUInt16 = 0x2112 := by decide
      rw [Bitstream.stunXorAddr, hhost, hport, UInt32.toUInt16_xor, hcookie]
      simp [kStunProtocolMagicCookie]
    have haddr : stream.stunAddr (k + 4) = netAddrSet host port true := by
      rw [Bitstream.stunAddr, hhost, hport]
      simp
    rw [store_address htype, BodyAttribute.respond]
    congr 1
    cases kind
    case xorMapped => exact hxor
    all_goals exact haddr
  · rw [StunAttribute.readEnd, if_pos haddress]
    rfl
  · exact congrArg (·.toNat + 4) hlength

theorem turnsOn_unrecognised (hbound : stream.bound < 2 ^ 64) {type : UInt16} {value : List UInt8}
    {h : ¬ StunAddressType type.toUInt32 ∧ type.toUInt32 ≠ StunAttributeType.errorCode.code}
    (hat : HasAt stream.data k (BodyAttribute.unrecognised type value h).wire)
    (hdata : k + 4 ≤ stream.data.length) (hfit : k + 4 + value.length ≤ stream.bound)
    (hvalue : value.length < 65536) : TurnsOn stream k (.unrecognised type value h) := by
  obtain ⟨htype, hat⟩ := hasAt_append.1 hat
  obtain ⟨hlength, -⟩ := hasAt_append.1 hat
  have htype : stream.word16 k = type.toUInt32 := (word16_of_hasAt htype).trans (by simp)
  have hlength : (stream.word16 (k + 2)).toNat = value.length := by
    have hword : stream.word16 (k + 2) = _ := word16_of_hasAt hlength
    rw [hword]
    simp
    omega
  have haddress : ¬ StunAddressType (stream.attributeAt k).type := by
    rw [Bitstream.attributeAt, htype]
    exact h.1
  have herror : (stream.attributeAt k).type ≠ StunAttributeType.errorCode.code := by
    rw [Bitstream.attributeAt, htype]
    exact h.2
  have hwire : (BodyAttribute.unrecognised type value h).wire.length = 4 + value.length := by
    simp [BodyAttribute.wire, wire16]
    omega
  constructor
  · exact hdata
  · exact ⟨fun h' => absurd h' haddress, fun h' => absurd h' herror⟩
  · intro response
    simp only [StunAddressType, not_or] at haddress
    obtain ⟨hmapped, hxor, halternate, hother, horigin⟩ := haddress
    rw [StunAttribute.store, if_neg hmapped, if_neg hxor, if_neg (not_or.2 ⟨halternate, hother⟩),
      if_neg horigin, if_neg herror]
    rfl
  · have hskip : stream.skipped (k + 4) (stream.word16 (k + 2)).toNat =
        k + 4 + (stream.word16 (k + 2)).toNat :=
      (Bitstream.skipped_eq_iff hbound).2 (hlength ▸ hfit)
    rw [StunAttribute.readEnd, if_neg haddress, if_neg herror]
    exact hskip.trans (by rw [hlength, hwire, Nat.add_assoc])
  · rw [hwire, Nat.add_comm 4]
    exact congrArg (· + 4) hlength

theorem wire_length_pos (a : BodyAttribute) : 4 ≤ a.wire.length := by
  cases a with
  | address kind port host => simp [BodyAttribute.wire, wire16, wire32]
  | unrecognised type value h => simp [BodyAttribute.wire, wire16]

theorem turnsOn (hbound : stream.bound < 2 ^ 64) {a : BodyAttribute}
    (hat : HasAt stream.data k a.wire) (hfit : k + a.wire.length ≤ stream.bound)
    (hlength : a.wire.length < 65536) : TurnsOn stream k a := by
  have hpos := wire_length_pos a
  have hdata := hat.end_le (by omega)
  cases a with
  | address kind port host =>
    have hwire : (BodyAttribute.address kind port host).wire.length = 12 := rfl
    exact turnsOn_address hat (hwire ▸ hdata)
  | unrecognised type value h =>
    have hwire : (BodyAttribute.unrecognised type value h).wire.length = 4 + value.length := by
      simp [BodyAttribute.wire, wire16]
      omega
    exact turnsOn_unrecognised hbound hat (by omega) (by omega) (by omega)

/-- **The loop on the attributes of a body**, with `remaining` bytes after them. -/
theorem unpackAttributes_wire (hbound : stream.bound < 2 ^ 64) (attributes : List BodyAttribute)
    {remaining turns turns' : Nat} {response : StunBindingResponse}
    (hat : HasAt stream.data k (wireBody attributes))
    (hfit : k + (wireBody attributes).length ≤ stream.bound)
    (hlength : (wireBody attributes).length < 65536)
    (hturns : (wireBody attributes).length + remaining ≤ turns) (hturns' : remaining ≤ turns') :
    stunUnpackAttributes turns ((wireBody attributes).length + remaining) response
        (stream.moveTo k) =
      stunUnpackAttributes turns' remaining (attributes.foldl BodyAttribute.respond response)
        (stream.moveTo (k + (wireBody attributes).length)) := by
  induction attributes generalizing k turns response with
  | nil =>
    simp only [wireBody, List.flatMap_nil, List.length_nil, Nat.zero_add] at hturns ⊢
    rw [stunUnpackAttributes_turns hturns hturns']
    rfl
  | cons a attributes ih =>
    have hwire : wireBody (a :: attributes) = a.wire ++ wireBody attributes := rfl
    rw [hwire] at hat hfit hlength hturns ⊢
    rw [List.length_append] at hfit hlength hturns ⊢
    obtain ⟨hhead, htail⟩ := hasAt_append.1 hat
    have hpos := wire_length_pos a
    have hturn := turnsOn hbound hhead (by omega) (by omega)
    have hlen := hturn.length
    obtain ⟨n, rfl⟩ : ∃ n, turns = n + 1 := ⟨turns - 1, by omega⟩
    have hrest : a.wire.length + (wireBody attributes).length + remaining -
        (stream.attributeAt k).length.toNat - 4 =
        (wireBody attributes).length + remaining := by omega
    rw [unpackAttributes_turn (by omega) hturn.header hturn.accepted, hturn.store, hturn.readEnd,
      hrest, ih htail (by omega) (by omega) (by omega), List.foldl_cons, Nat.add_assoc]

end Wire

theorem stunRemainingBytes_ofNat {n : Nat} (h : n < 65536) :
    (UInt32.ofNat n).toNat = n ∧ stunRemainingBytes (UInt32.ofNat n) = n := by
  have hnat : (UInt32.ofNat n).toNat = n := by
    rw [UInt32.toNat_ofNat', Nat.mod_eq_of_lt (by omega)]
  exact ⟨hnat, by rw [stunRemainingBytes_eq, hnat, if_pos (by omega)]⟩

theorem lastAddress_isSome (slot : StunAddressSlot) (attributes : List BodyAttribute) :
    (lastAddress slot attributes).isSome = true ↔
      ∃ a ∈ attributes, (a.addressIn slot).isSome = true := by
  induction attributes with
  | nil => simp [lastAddress]
  | cons a attributes ih =>
    rw [lastAddress, Option.isSome_or, Bool.or_eq_true, ih]
    simp only [List.mem_cons, exists_eq_or_imp]
    exact or_comm

/-- **Bodies of address attributes**, in any order, among attributes of other types. -/
theorem body_addresses (attributes : List BodyAttribute) {stream : Bitstream}
    (hbound : stream.bound < 2 ^ 64) (hat : HasAt stream.data stream.offset (wireBody attributes))
    (hfit : stream.offset + (wireBody attributes).length ≤ stream.bound)
    (hlength : (wireBody attributes).length < 65536) :
    ∃ response, stunProtocolUnpackBindingResponseBody
        (UInt32.ofNat (wireBody attributes).length) stream =
      some ((.valid, response), stream.advance (wireBody attributes).length) ∧
    (∀ slot, (response.has slot = true ↔ ∃ a ∈ attributes, (a.addressIn slot).isSome = true) ∧
      ∀ addr ∈ lastAddress slot attributes, response.addr slot = addr) ∧
    response.hasErrorCode = false := by
  refine ⟨attributes.foldl BodyAttribute.respond .zeroed, ?_, fun slot => ?_, ?_⟩
  · have hloop : stunUnpackAttributes (wireBody attributes).length
        ((wireBody attributes).length + 0) .zeroed (stream.moveTo stream.offset) = _ :=
      unpackAttributes_wire hbound attributes hat hfit hlength (Nat.le_refl _) (Nat.le_refl 0)
    rw [stunProtocolUnpackBindingResponseBody, (stunRemainingBytes_ofNat hlength).2]
    exact hloop
  · obtain ⟨hhas, haddr⟩ := respondAll_slot attributes .zeroed slot
    have hzeroed : StunBindingResponse.zeroed.has slot = false := by cases slot <;> rfl
    rw [hhas, haddr, hzeroed, Bool.false_or]
    refine ⟨lastAddress_isSome slot attributes, fun addr hlast => ?_⟩
    rw [Option.mem_def.1 hlast, Option.getD_some]
  · exact (respondAll_error attributes .zeroed).1

/-- A MAPPED-ADDRESS, a SOFTWARE attribute of two bytes and a second MAPPED-ADDRESS. -/
def repeatedBody : List BodyAttribute :=
  [.address .mapped 1 2, .unrecognised 0x8022 [97, 98] (by decide),
    .address .mapped 0x0d05 0x0a000007]

theorem body_addresses_repeated :
    ∃ response, stunProtocolUnpackBindingResponseBody
        (UInt32.ofNat (wireBody repeatedBody).length)
        (bitstreamCreate (wireBody repeatedBody) 30) =
      some ((.valid, response), (bitstreamCreate (wireBody repeatedBody) 30).advance
        (wireBody repeatedBody).length) ∧
    response.addr .mapped = netAddrSet 0x0a000007 0x0d05 true := by
  have hlength : (wireBody repeatedBody).length = 30 := by decide
  have hfit : (bitstreamCreate (wireBody repeatedBody) 30).offset +
      (wireBody repeatedBody).length ≤ 30 := by
    rw [hlength]
    decide
  obtain ⟨response, hbody, hslots, -⟩ := body_addresses repeatedBody
    (by decide : (bitstreamCreate (wireBody repeatedBody) 30).bound < 2 ^ 64)
    (List.prefix_refl _) hfit (by omega)
  exact ⟨response, hbody, (hslots .mapped).2 _ rfl⟩

end UniversalNetwork
