import UniversalNetwork.Bitstream.Deciding
import UniversalNetwork.Datagram
import UniversalNetwork.TransactionProtocol.Faults

/-!
# The last byte of a transaction and of a stream packet

The decoders of transactions and of stream packets read no byte at their end that they could do
without: with another last byte they return something else (`decides_transaction`,
`decides_stream`). An attribute that is not well formed stops at its tag or its length, and could be
well formed with other bytes there; of one that is, the last byte of the value is returned.
-/

namespace UniversalNetwork

open Lib

/-! ## Attributes of fixed size -/

section Fixed

variable {α : Type} {tag length : UInt32} {old : α} {body : BitM (UnpackResult × α)}

/-- The tag is read, and after the right tag the length. -/
theorem fixed_reads {s s' : Bitstream} {x : UnpackResult × α} {k : Nat}
    (h : unpackFixed tag length old body (s.moveTo k) = some (x, s')) :
    k + 1 ≤ s.data.length ∧ (s.word8 k = tag → k + 2 ≤ s.data.length) := by
  obtain ⟨type, s₁, htype, h⟩ := bind_eq_some h
  have hk := (fixed_uint8.isSome (s.moveTo k)).1 (by rw [htype]; rfl)
  obtain ⟨rfl, rfl⟩ := uint8_eq_some htype
  refine ⟨hk, fun htag => ?_⟩
  rw [if_neg (not_not_intro htag)] at h
  obtain ⟨y, s₂, hy, -⟩ := bind_eq_some h
  exact (fixed_uint8.isSome (s.moveTo (k + 1))).1 (by rw [hy]; rfl)

/-- Other bytes from where it stopped make an attribute well formed. -/
theorem fixed_reform {s : Bitstream} {k : Nat} (htag : tag.toUInt8.toUInt32 = tag)
    (hlength : length.toUInt8.toUInt32 = length) (hk : k + 1 ≤ s.data.length)
    (hno : ¬ Attribute.fixedFormed s k tag length) :
    ∃ f, ∀ t, t = s.refill (Attribute.fixedNext s k tag length 0 - 1) f →
      (t.word8 k = tag → k + 2 ≤ t.data.length) → Attribute.fixedFormed t k tag length := by
  refine ⟨fun i => if i = k then tag.toUInt8 else length.toUInt8, ?_⟩
  rintro t rfl hroom
  have hsecond : k + 1 < s.data.length → Attribute.fixedNext s k tag length 0 - 1 ≤ k + 1 →
      (s.refill (Attribute.fixedNext s k tag length 0 - 1) fun i =>
        if i = k then tag.toUInt8 else length.toUInt8).word8 (k + 1) = length := by
    intro hlt hle
    rw [word8_refill _ hle hlt, if_neg (Nat.succ_ne_self k), hlength]
  have hdata : ∀ n f, (s.refill n f).data.length = s.data.length :=
    fun n f => length_refill n s.data f
  rw [hdata] at hroom
  unfold Attribute.fixedNext at hroom hsecond ⊢
  by_cases hmatch : s.word8 k = tag
  · have hlen : s.word8 (k + 1) ≠ length := fun h => hno ⟨hmatch, h⟩
    rw [if_neg (not_not_intro hmatch), if_pos hlen] at hroom hsecond ⊢
    have htag' := ((alike_refill s (k + 1) fun i =>
      if i = k then tag.toUInt8 else length.toUInt8).word8 (Nat.lt_succ_self k)).trans hmatch
    exact ⟨htag', hsecond (hroom htag') (Nat.le_refl _)⟩
  · rw [if_pos hmatch] at hroom hsecond ⊢
    have htag' : (s.refill k fun i => if i = k then tag.toUInt8 else length.toUInt8).word8 k =
        tag := by
      rw [word8_refill _ (Nat.le_refl k) hk, if_pos rfl, htag]
    exact ⟨htag', hsecond (hroom htag') (Nat.le_succ k)⟩

theorem decides_fixed (htag : tag.toUInt8.toUInt32 = tag) (hlength : length.toUInt8.toUInt32 = length)
    (hbody : Decides id 0 body)
    (hvalid : ∀ {s s' r x}, body s = some ((r, x), s') → r = .valid) :
    Decides id 0 (unpackFixed tag length old body) := by
  constructor
  rintro s s' ⟨r, x⟩ hs - h
  obtain ⟨k, hk⟩ : ∃ k, s.offset = k := ⟨_, rfl⟩
  rw [← s.moveTo_offset, hk] at h
  obtain ⟨hroom, hroom'⟩ := fixed_reads h
  rcases fixed_cases h with ⟨hformed, hrun⟩ | ⟨hformed, rfl, rfl, hnext⟩
  · obtain ⟨hlt, t, hst, hdiffers⟩ :=
      hbody.last (s := s.moveTo (k + 2)) ⟨hs.bound, hs.size⟩ (hs.bound ▸ hroom' hformed.1) hrun
    rw [Bitstream.offset_moveTo] at hlt
    have hat : Alike (s'.offset - 1) s (t.moveTo k) := ⟨hk.symm, hst.bound, hst.data⟩
    refine ⟨by omega, t.moveTo k, hat, ?_⟩
    rintro ⟨r', x'⟩ t' h'
    rcases @fixed_cases t _ _ _ _ _ _ _ _ _ h' with ⟨-, hrun'⟩ | ⟨hno, -⟩
    · rw [show t.moveTo (k + 2) = t by
        rw [Bitstream.moveTo, ← show t.offset = k + 2 from hst.offset]] at hrun'
      exact hdiffers _ t' hrun'
    · exact absurd ⟨(hat.word8 (by omega)).trans hformed.1, (hat.word8 (by omega)).trans hformed.2⟩
        hno
  · obtain ⟨f, hf⟩ := fixed_reform htag hlength hroom hformed
    rw [hnext 0, Bitstream.offset_moveTo, hk]
    refine ⟨fixed_le_next s k tag length 0, _, alike_refill s _ f, ?_⟩
    rintro ⟨r', x'⟩ t' h' heq
    rw [← Bitstream.moveTo_offset (s.refill _ _),
      show (s.refill (Attribute.fixedNext s k tag length 0 - 1) f).offset = k from hk] at h'
    rcases fixed_cases h' with ⟨-, hrun⟩ | ⟨hno, -⟩
    · rw [hvalid hrun] at heq
      cases heq
    · exact hno (hf _ rfl (fixed_reads h').2)

end Fixed

theorem decides_address (address : NetAddr) :
    Decides id 0 (transactionProtocolUnpackAttributeAddress address) := by
  refine decides_fixed (by decide) (by decide) (.bind local_uint16Endian fun port =>
    decides_uint32Endian.map fun host host' h => ?_) fun h => ?_
  · exact congrArg (fun x => x.2.sAddr) h
  · obtain ⟨port, s₁, -, h⟩ := bind_eq_some h
    obtain ⟨host, s₂, -, h⟩ := bind_eq_some h
    cases h
    rfl

theorem decides_seconds (seconds : Int) :
    Decides id 0 (transactionProtocolUnpackAttributeSeconds seconds) := by
  refine decides_fixed (by decide) (by decide) (decides_uint32.map fun x x' h => ?_) fun h => ?_
  · have hvalue : (x'.toNat : Int) = x.toNat := (Prod.mk.inj h).2
    exact UInt32.toNat_inj.1 (Int.ofNat.inj hvalue)
  · obtain ⟨value, s₁, -, h⟩ := bind_eq_some h
    cases h
    rfl

theorem decides_count (count : UInt32) :
    Decides id 0 (transactionProtocolUnpackAttributeCount count) := by
  refine decides_fixed (by decide) (by decide) (decides_uint16.map fun x x' h => ?_) fun h => ?_
  · exact (Prod.mk.inj h).2
  · obtain ⟨value, s₁, -, h⟩ := bind_eq_some h
    cases h
    rfl

/-! ## Strings -/

section Strings

variable {n max k : Nat} {string string' : Vector UInt8 n} {s s' : Bitstream} {r : UnpackResult}

/-- The last character is stored first. -/
theorem string_first {l : Nat} (htag : s.word8 k = TransactionAttributeType.string.code)
    (hl : (s.word8 (k + 2)).toNat = l) (hmax : l + 1 ≤ max) (hpos : 0 < l)
    (hfit : s.enough (k + 3) l)
    (h : transactionProtocolUnpackAttributeString string max (s.moveTo k) =
      some ((r, string'), s')) :
    string'[0]? = s.data[k + 3 + l - 1]? := by
  subst hl
  obtain ⟨type, s₁, htype, h⟩ := bind_eq_some h
  obtain ⟨rfl, rfl⟩ := uint8_eq_some htype
  rw [if_neg (not_not_intro htag)] at h
  obtain ⟨length, s₂, hlength, h⟩ := bind_eq_some h
  obtain ⟨rfl, rfl⟩ := uint8_eq_some hlength
  obtain ⟨⟨m, string₁⟩, s₃, hstr, hpure⟩ := bind_eq_some h
  cases hpure
  obtain ⟨strlength, s₄, hstrlength, hstr⟩ := bind_eq_some hstr
  obtain ⟨rfl, rfl⟩ := uint8_eq_some hstrlength
  rw [if_neg (Nat.not_lt.2 hmax)] at hstr
  obtain ⟨⟨m', dest⟩, s₅, hread, hstr⟩ := bind_eq_some hstr
  obtain ⟨dest', s₆, haccess, hpure⟩ := bind_eq_some hstr
  cases hpure
  obtain ⟨d, hstore, he⟩ := Option.map_eq_some_iff.1 haccess
  cases he
  exact (store_get_ne hstore (Nat.pos_iff_ne_zero.1 hpos).symm).trans
    (readBytes_first hfit hpos hread)

theorem decides_string (string : Vector UInt8 n) (hn : 0 < n) (hmax : 2 ≤ max) :
    Decides id 4 (transactionProtocolUnpackAttributeString string max) := by
  constructor
  rintro s s' ⟨r, string'⟩ hs hroom h
  obtain ⟨k, hk⟩ : ∃ k, s.offset = k := ⟨_, rfl⟩
  rw [hk] at hroom
  have hdata : k + 4 ≤ s.data.length := hs.bound ▸ hroom
  rw [← s.moveTo_offset, hk] at h
  obtain ⟨rfl, rfl⟩ := string_eq_some h
  rw [Bitstream.offset_moveTo, hk]
  refine ⟨string_le_next s k max, ?_⟩
  have hrefill : ∀ m f, s.refill m f = (s.refill m f).moveTo k := fun m f => by
    rw [Bitstream.moveTo, ← show (s.refill m f).offset = k from hk]
  by_cases htag : s.word8 k = TransactionAttributeType.string.code
  · by_cases hread : (s.word8 (k + 2)).toNat + 1 ≤ max ∧ 0 < (s.word8 (k + 2)).toNat ∧
        s.enough (k + 3) (s.word8 (k + 2)).toNat
    · -- another last character
      obtain ⟨hshort, hpos, hfit⟩ := hread
      have hnext : (Attribute.string max).next s k = k + 3 + (s.word8 (k + 2)).toNat := by
        rw [Attribute.next, if_neg (not_not_intro htag), if_neg (Nat.not_lt.2 hshort), if_pos hfit]
      have hinside := hs.stops_inside (show k + 3 ≤ s.data.length by omega) hfit
      obtain ⟨x, hx⟩ : ∃ x, s.data[k + 3 + (s.word8 (k + 2)).toNat - 1]? = some x :=
        ⟨_, List.getElem?_eq_getElem (by omega)⟩
      rw [hnext]
      have hst := alike_refill s (k + 3 + (s.word8 (k + 2)).toNat - 1) fun _ => x + 1
      refine ⟨_, hst, ?_⟩
      rintro ⟨r', string''⟩ t' h' heq
      rw [hrefill] at h'
      have hlength := congrArg UInt32.toNat (hst.word8 (show k + 2 < _ by omega))
      have hfirst := string_first ((hst.word8 (by omega)).trans htag) hlength hshort hpos
        ((hst.moveTo (k + 3)).bytesDoFit.2 hfit) h'
      rw [show (s.refill _ _).data = Lib.refill _ s.data _ from rfl,
        getElem?_refill _ (Nat.le_refl _) (by omega), (Prod.mk.inj heq).2,
        string_first htag rfl hshort hpos hfit h, hx] at hfirst
      exact UInt8.succ_ne x (Option.some.inj hfirst).symm
    · -- a string of one other character
      have hnext : (Attribute.string max).next s k = k + 3 := by
        rw [Attribute.next, if_neg (not_not_intro htag)]
        split
        · rfl
        · split
          · rename_i hmax hfit
            have hzero : (s.word8 (k + 2)).toNat = 0 := by
              by_contra hne
              exact hread ⟨Nat.le_of_not_lt hmax, Nat.pos_of_ne_zero hne, hfit⟩
            rw [hzero]
          · rfl
      rw [hnext]
      have hst := alike_refill s (k + 2) fun i => if i = k + 2 then 1 else string'[0] + 1
      refine ⟨_, hst, ?_⟩
      rintro ⟨r', string''⟩ t' h' heq
      have hlength : (s.refill (k + 2) fun i => if i = k + 2 then 1 else string'[0] + 1).word8
          (k + 2) = 1 := by
        rw [word8_refill _ (Nat.le_refl _) (by omega), if_pos rfl]
        rfl
      have hfit : (s.moveTo (k + 3)).bytesDoFit 1 :=
        (show (s.moveTo (k + 3)).Sized from ⟨hs.bound, hs.size⟩).bytesDoFit hroom
      rw [hrefill] at h'
      have hfirst := string_first ((hst.word8 (by omega)).trans htag) (congrArg UInt32.toNat hlength)
        hmax Nat.one_pos ((hst.moveTo (k + 3)).bytesDoFit.2 hfit) h'
      rw [show (s.refill _ _).data = Lib.refill _ s.data _ from rfl,
        show k + 3 + (1 : UInt32).toNat - 1 = k + 3 from rfl,
        getElem?_refill _ (by omega) (by omega), if_neg (by omega), (Prod.mk.inj heq).2,
        Vector.getElem?_eq_getElem hn] at hfirst
      exact UInt8.succ_ne _ (Option.some.inj hfirst).symm
  · -- the tag of a string
    have hnext : (Attribute.string max).next s k = k + 1 := by
      rw [Attribute.next, if_pos htag]
    rw [hnext]
    refine ⟨_, alike_refill s k fun _ => 1, ?_⟩
    rintro ⟨r', x⟩ t' h' heq
    rw [hrefill] at h'
    have htag' : (s.refill k fun _ => 1).word8 k = TransactionAttributeType.string.code := by
      rw [word8_refill _ (Nat.le_refl k) (by omega)]
      rfl
    rw [(string_eq_some h').1, Attribute.result_of_formed (a := .string max) htag',
      Attribute.result_of_not_formed (a := .string max) htag] at heq
    cases heq

end Strings

/-- Of at most `max` characters and the null. -/
theorem atMost_string {max : Nat} (string : Vector UInt8 max) :
    AtMost (3 + max) (transactionProtocolUnpackAttributeString string max) := by
  intro s hdata
  obtain ⟨⟨⟨r, string'⟩, s'⟩, h⟩ := Option.isSome_iff_exists.1
    (@string_isSome_array s s.offset max string (by omega))
  have hnext := string_next_le s s.offset max
  rw [(string_eq_some h).2] at h
  exact ⟨_, _, h, by omega⟩

/-! ## Objects -/

theorem decides_userCreate (o : TransactionObjectUserCreate) :
    Decides id 55 (transactionProtocolUnpackObjectUserCreate o) := by
  refine Decides.bind_atMost (v := 47) local_uint64 fixed_uint64.atMost fun uid => ?_
  refine Decides.bind_atMost (v := 4) (local_string _ _) (atMost_string o.name) fun x => ?_
  refine ((decides_string o.email (by decide) (show 2 ≤ kUniversalUserEmailMaxLength by decide)).map
    (g := fun y => (y.1, TransactionObjectUserCreate.mk uid x.2 y.2)) fun y y' h => ?_ :)
  exact Prod.ext (congrArg (·.1) h) (congrArg (·.2.email) h)

theorem decides_resourceCreate (o : TransactionObjectResourceCreate) :
    Decides id 0 (transactionProtocolUnpackObjectResourceCreate o) := by
  refine Decides.bind local_uint64 fun rid => .bind local_uint64 fun uid => ?_
  refine (decides_block o.data local_uint8 decides_uint8
    (g := fun length x => (if x.1 ≠ length.toNat then UnpackResult.invalid else .valid,
      TransactionObjectResourceCreate.mk rid x.2 length uid)) fun l x l' x' h => ?_ :)
  exact ⟨congrArg (·.2.length) h, congrArg (·.2.data) h⟩

theorem decides_online (o : TransactionObjectOnline) :
    Decides id 0 (transactionProtocolUnpackObjectOnline o) := by
  refine Decides.bind local_uint64 fun uid => .bind (local_address _) fun x =>
    .bind (local_address _) fun y => ?_
  refine ((decides_seconds o.expireSeconds).map
    (g := fun z => (z.1, TransactionObjectOnline.mk uid x.2 y.2 z.2)) fun z z' h => ?_ :)
  exact Prod.ext (congrArg (·.1) h) (congrArg (·.2.expireSeconds) h)

theorem decides_objectPeerId (o : TransactionObjectPeerId) :
    Decides id 4 (unpackObjectPeerId o) := by
  refine ((decides_string o.peerId (by decide) (show 2 ≤ kUniversalPeerIdMaxLength by decide)).map
    (g := fun x => (x.1, TransactionObjectPeerId.mk x.2)) fun x x' h => ?_ :)
  exact Prod.ext (congrArg (·.1) h) (congrArg (·.2.peerId) h)

theorem decides_objectPeerAddress (o : TransactionObjectPeerAddress) :
    Decides id 0 (unpackObjectPeerAddress o) := by
  refine Decides.bind (local_string _ _) fun x => ?_
  refine ((decides_address o.streamAddress).map
    (g := fun y => (y.1, TransactionObjectPeerAddress.mk x.2 y.2)) fun y y' h => ?_ :)
  exact Prod.ext (congrArg (·.1) h) (congrArg (·.2.streamAddress) h)

/-! ## Peers -/

/-- Outside the memory an address that is returned is not well formed, and the old one. -/
theorem peerAddress_outside {address : NetAddr} {s s' : Bitstream} {x : UnpackResult × NetAddr}
    (h : unpackPeerAddress false address s = some (x, s')) : x = (.invalid, address) := by
  obtain ⟨⟨r, a⟩, s₁, haddress, h⟩ := bind_eq_some h
  obtain ⟨a', s₂, haccess, hpure⟩ := bind_eq_some h
  cases hpure
  obtain ⟨y, hy, he⟩ := Option.map_eq_some_iff.1 haccess
  cases he
  rw [← s.moveTo_offset] at haddress
  rcases fixed_cases haddress with ⟨-, hbody⟩ | ⟨-, rfl, rfl, -⟩
  · obtain ⟨port, s₃, -, hbody⟩ := bind_eq_some hbody
    obtain ⟨host, s₄, -, hpure⟩ := bind_eq_some hbody
    cases hpure
    cases hy
  · cases hy
    rfl

theorem peerAddress_of_unpack {inside : Bool} {address : NetAddr} {s s' : Bitstream}
    {x : UnpackResult × NetAddr} (h : unpackPeerAddress inside address s = some (x, s')) :
    transactionProtocolUnpackAttributeAddress address s = some (x, s') := by
  obtain ⟨⟨r, a⟩, s₁, haddress, h⟩ := bind_eq_some h
  obtain ⟨a', s₂, haccess, hpure⟩ := bind_eq_some h
  cases hpure
  obtain ⟨y, hy, he⟩ := Option.map_eq_some_iff.1 haccess
  cases he
  split at hy
  · cases hy
  · cases hy
    exact haddress

/-- The last address of the last peer. -/
theorem decides_lastPeer {capacity i : Nat} (list : Vector TransactionObjectPeer 10)
    (peerId : Vector UInt8 kUniversalPeerIdMaxLength) (localAddress mappedAddress : NetAddr) :
    Decides id 0 (unpackPeerAddress (i < 10 ∧ peerOffset i + 64 ≤ capacity) mappedAddress >>=
      fun x => pure (x.1, list.setIfInBounds i ⟨peerId, localAddress, x.2⟩)) := by
  have haddress : Decides id 0 (unpackPeerAddress (i < 10 ∧ peerOffset i + 64 ≤ capacity)
      mappedAddress) := (decides_address mappedAddress).of_imp fun h => peerAddress_of_unpack h
  by_cases hinside : i < 10 ∧ peerOffset i + 64 ≤ capacity
  · refine haddress.map fun x x' h => Prod.ext (congrArg (·.1) h) ?_
    have hlist := congrArg (fun y => y.2[i]?) h
    simp only [id, Vector.getElem?_setIfInBounds_self, if_pos hinside.1] at hlist
    exact congrArg TransactionObjectPeer.mappedAddress (Option.some.inj hlist)
  · rw [decide_eq_false hinside] at haddress ⊢
    constructor
    intro s s' b hs hroom h
    obtain ⟨x, s₁, hx, hpure⟩ := bind_eq_some h
    cases hpure
    obtain ⟨hlt, t, hst, hdiffers⟩ := haddress.last hs hroom hx
    refine ⟨hlt, t, hst, fun b' t' h' => ?_⟩
    obtain ⟨x', t₁, hx', -⟩ := bind_eq_some h'
    exact absurd ((peerAddress_outside hx').trans (peerAddress_outside hx).symm)
      (hdiffers x' t₁ hx')

theorem decides_peers (capacity n i : Nat) (r : UnpackResult)
    (list : Vector TransactionObjectPeer 10) :
    Decides id 0 (unpackPeers capacity (n + 1) i r list) := by
  induction n generalizing i r list with
  | zero =>
    refine Decides.bind (local_unpackPeerId _ _) fun x => .bind (local_unpackPeerAddress _ _)
      fun y => ?_
    exact decides_lastPeer list x.2 y.2 _
  | succ n ih =>
    exact Decides.bind (local_unpackPeerId _ _) fun x => .bind (local_unpackPeerAddress _ _)
      fun y => .bind (local_unpackPeerAddress _ _) fun z => ih _ _ _

theorem decides_peerList (capacity : Nat) (o : TransactionObjectPeerList) :
    Decides id 4 (transactionProtocolUnpackObjectPeerList capacity o) := by
  have hcount : AtMost 4 (transactionProtocolUnpackAttributeCount o.count) := by
    intro s hdata
    obtain ⟨⟨⟨r, count⟩, s'⟩, h⟩ := Option.isSome_iff_exists.1
      (count_isSome s s.offset o.count hdata)
    have hnext := fixedNext_le s s.offset TransactionAttributeType.count.code
      kTransactionAttributeLengthCount 2
    rw [(count_eq_some h).2.2] at h
    exact ⟨_, _, h, hnext⟩
  refine Decides.bind_or (v := 0) (local_count _) hcount ((decides_count _).mono (Nat.zero_le 4))
    fun x => ?_
  obtain ⟨r, count⟩ := x
  rcases Nat.eq_zero_or_eq_succ_pred count.toNat with hzero | hsucc
  · refine .inr ⟨(r, ⟨count, o.list⟩), ?_, ?_⟩
    · dsimp only
      rw [hzero]
      rfl
    rintro ⟨r', count'⟩ b' t t' hne h' heq
    obtain ⟨⟨r'', list⟩, s₁, hpeers, hpure⟩ := bind_eq_some h'
    cases hpure
    cases heq
    rw [hzero] at hpeers
    cases hpeers
    exact hne rfl
  · left
    dsimp only
    rw [hsucc]
    refine ((decides_peers capacity _ 0 r o.list).map
      (g := fun y => (y.1, TransactionObjectPeerList.mk count y.2)) fun y y' h => ?_ :)
    exact Prod.ext (congrArg (·.1) h) (congrArg (·.2.list) h)

/-! ## Requests -/

theorem unpackRequest_body (memory : ObjectMemory) : transactionProtocolUnpackRequest memory =
    bitstreamReadUint8 >>= fun type => untraced (tracedBody memory type) := by
  rw [← untraced_request]
  simp [untraced, tracedRequest]

/-- An object of one struct. -/
theorem decides_object {α : Type} {v : Nat} {d : BitM (Trace α)} {f : α → TransactionObject}
    (hd : Decides id v (untraced d)) (hf : ∀ x x', f x' = f x → x' = x) (hv : v ≤ 55) :
    Decides id 55 (untraced (mapTrace d f)) := by
  rw [untraced_map]
  refine ((hd.mono hv).map (g := fun x => (x.1, f x.2)) fun x x' h => ?_ :)
  exact Prod.ext (congrArg (·.1) h) (hf _ _ (congrArg (·.2) h))

theorem untraced_type {α : Type} {d : BitM (Trace α)} {f : α → TransactionObject} {type : UInt32}
    {s s' : Bitstream} {x : UnpackResult × TransactionObject}
    (hf : ∀ y, (f y).type = type) (h : untraced (mapTrace d f) s = some (x, s')) :
    x.2.type = type := by
  rw [untraced_map] at h
  obtain ⟨⟨r, y⟩, s₁, -, hpure⟩ := bind_eq_some h
  cases hpure
  exact hf y

/-- The object has the type that was read. -/
theorem body_type {memory : ObjectMemory} {type : UInt32} {s s' : Bitstream}
    {x : UnpackResult × TransactionObject}
    (h : untraced (tracedBody memory type) s = some (x, s')) : x.2.type = type := by
  rcases tracedBody_cases memory s 0 0 type with
    ⟨rfl, hd, -⟩ | ⟨rfl, hd, -⟩ | ⟨rfl, hd, -⟩ | ⟨rfl, hd, -⟩ | ⟨rfl, hd, -⟩ | ⟨rfl, hd, -⟩ |
    ⟨rfl, hd, -⟩ | ⟨rfl, hd, -⟩ | ⟨rfl, hd, -⟩ | ⟨hplain, hd, -⟩ <;> rw [hd] at h
  · exact untraced_type (fun _ => rfl) h
  · exact untraced_type (fun _ => rfl) h
  · exact untraced_type (fun _ => rfl) h
  · exact untraced_type (fun _ => rfl) h
  · exact untraced_type (fun _ => rfl) h
  · exact untraced_type (fun _ => rfl) h
  · exact untraced_type (fun _ => rfl) h
  · exact untraced_type (fun _ => rfl) h
  · exact untraced_type (fun _ => rfl) h
  · cases h
    rfl

theorem decides_request (memory : ObjectMemory) :
    Decides id 56 (transactionProtocolUnpackRequest memory) := by
  rw [unpackRequest_body]
  refine Decides.bind_or (v := 55) local_uint8 fixed_uint8.atMost
    (decides_uint8.mono (Nat.zero_le 1)) fun type => ?_
  have huser := (untraced_userCreate memory.userCreate).symm ▸ decides_userCreate memory.userCreate
  have hresource := (untraced_resourceCreate memory.resourceCreate).symm ▸
    decides_resourceCreate memory.resourceCreate
  have honline := (untraced_online memory.online).symm ▸ decides_online memory.online
  have hid := (untraced_peerId memory.peerId).symm ▸ decides_objectPeerId memory.peerId
  have hlist := (untraced_peerList memory.capacity memory.peerList).symm ▸
    decides_peerList memory.capacity memory.peerList
  have haddress := (untraced_peerAddress memory.peerAddress).symm ▸
    decides_objectPeerAddress memory.peerAddress
  rcases tracedBody_cases memory (bitstreamCreate [] 0) 0 0 type with
    ⟨-, hd, -⟩ | ⟨-, hd, -⟩ | ⟨-, hd, -⟩ | ⟨-, hd, -⟩ | ⟨-, hd, -⟩ | ⟨-, hd, -⟩ | ⟨-, hd, -⟩ |
    ⟨-, hd, -⟩ | ⟨-, hd, -⟩ | ⟨hplain, hd, -⟩ <;> rw [hd]
  · exact .inl (decides_object huser (fun _ _ h => TransactionObject.userCreate.inj h) (by decide))
  · exact .inl (decides_object hresource (fun _ _ h => TransactionObject.resourceCreate.inj h)
      (by decide))
  · exact .inl (decides_object honline (fun _ _ h => TransactionObject.online.inj h) (by decide))
  · exact .inl (decides_object hid (fun _ _ h => TransactionObject.offline.inj h) (by decide))
  · exact .inl (decides_object hlist (fun _ _ h => TransactionObject.peerList.inj h) (by decide))
  · exact .inl (decides_object haddress (fun _ _ h => TransactionObject.connect.inj h) (by decide))
  · exact .inl (decides_object haddress (fun _ _ h => TransactionObject.connectAccept.inj h)
      (by decide))
  · exact .inl (decides_object hid (fun _ _ h => TransactionObject.connectRefuse.inj h) (by decide))
  · exact .inl (decides_object hid (fun _ _ h => TransactionObject.disconnect.inj h) (by decide))
  · refine .inr ⟨_, rfl, fun type' b' t t' hne h' heq => hne ?_⟩
    exact (body_type h').symm.trans (congrArg (·.2.type) heq)

/-! ## Headers -/

/-- Where the decoder of the common header at index `k` stops. -/
def Bitstream.headerEnd (stream : Bitstream) (k : Nat) : Nat :=
  if stream.word8 k ≠ kProtocolDefaultId then k + 1
  else if stream.word8 (k + 1) ≠ kProtocolDefaultVersion then k + 2
  else k + 3

/-- The three bytes that the decoder expects. -/
def Bitstream.HeaderAt (stream : Bitstream) (k : Nat) (protocolType : ProtocolType) : Prop :=
  stream.word8 k = kProtocolDefaultId ∧ stream.word8 (k + 1) = kProtocolDefaultVersion ∧
    stream.word8 (k + 2) = protocolType.code

instance (stream : Bitstream) (k : Nat) (protocolType : ProtocolType) :
    Decidable (stream.HeaderAt k protocolType) :=
  inferInstanceAs (Decidable (_ ∧ _ ∧ _))

section Headers

variable {s s' : Bitstream} {k : Nat} {r : UnpackResult} {protocolType : ProtocolType}

theorem protocolHeader_eq_some
    (h : protocolUnpackHeader kProtocolDefaultId kProtocolDefaultVersion protocolType
      (s.moveTo k) = some (r, s')) :
    s' = s.moveTo (s.headerEnd k) ∧ r = if s.HeaderAt k protocolType then .valid else .invalid := by
  obtain ⟨x, s₁, hx, h⟩ := bind_eq_some h
  obtain ⟨rfl, rfl⟩ := uint8_eq_some hx
  unfold Bitstream.headerEnd
  by_cases hid : s.word8 k = kProtocolDefaultId
  · rw [if_neg (not_not_intro hid.symm)] at h
    obtain ⟨y, s₂, hy, h⟩ := bind_eq_some h
    obtain ⟨rfl, rfl⟩ := uint8_eq_some hy
    by_cases hversion : s.word8 (k + 1) = kProtocolDefaultVersion
    · rw [if_neg (not_not_intro hversion.symm)] at h
      obtain ⟨z, s₃, hz, h⟩ := bind_eq_some h
      obtain ⟨rfl, rfl⟩ := uint8_eq_some hz
      rw [if_neg (not_not_intro hid), if_neg (not_not_intro hversion)]
      by_cases htype : s.word8 (k + 1 + 1) = protocolType.code
      · rw [if_neg (not_not_intro htype.symm)] at h
        cases h
        exact ⟨rfl, (if_pos ⟨hid, hversion, htype⟩).symm⟩
      · rw [if_pos (Ne.symm htype)] at h
        cases h
        exact ⟨rfl, (if_neg fun hat => htype hat.2.2).symm⟩
    · rw [if_pos (Ne.symm hversion)] at h
      cases h
      rw [if_neg (not_not_intro hid), if_pos hversion,
        if_neg fun hat : s.HeaderAt k protocolType => hversion hat.2.1]
      exact ⟨rfl, rfl⟩
  · rw [if_pos (Ne.symm hid)] at h
    cases h
    rw [if_pos hid, if_neg fun hat : s.HeaderAt k protocolType => hid hat.1]
    exact ⟨rfl, rfl⟩

theorem headerEnd_bounds (s : Bitstream) (k : Nat) : k < s.headerEnd k ∧ s.headerEnd k ≤ k + 3 := by
  unfold Bitstream.headerEnd
  split
  · omega
  · split <;> omega

/-- Other bytes from the first that differs. -/
theorem headerAt_refill (hk : k + 3 ≤ s.data.length) (hno : ¬ s.HeaderAt k protocolType) :
    ∃ f, (s.refill (s.headerEnd k - 1) f).HeaderAt k protocolType := by
  refine ⟨fun i => if i = k then kProtocolDefaultId.toUInt8
    else if i = k + 1 then kProtocolDefaultVersion.toUInt8 else protocolType.code.toUInt8, ?_⟩
  have hcode : protocolType.code.toUInt8.toUInt32 = protocolType.code := by
    cases protocolType <;> decide
  have hkept := fun i hi => (alike_refill s (s.headerEnd k - 1) fun i =>
    if i = k then kProtocolDefaultId.toUInt8 else if i = k + 1 then kProtocolDefaultVersion.toUInt8
    else protocolType.code.toUInt8).word8 (i := i) hi
  unfold Bitstream.headerEnd at hkept ⊢
  by_cases hid : s.word8 k = kProtocolDefaultId
  · rw [if_neg (not_not_intro hid)] at hkept ⊢
    by_cases hversion : s.word8 (k + 1) = kProtocolDefaultVersion
    · rw [if_neg (not_not_intro hversion)] at hkept ⊢
      refine ⟨(hkept k (by omega)).trans hid, (hkept (k + 1) (by omega)).trans hversion, ?_⟩
      rw [word8_refill _ (by omega) (by omega), if_neg (by omega), if_neg (by omega), hcode]
    · rw [if_pos hversion] at hkept ⊢
      refine ⟨(hkept k (by omega)).trans hid, ?_, ?_⟩
      · rw [word8_refill _ (by omega) (by omega), if_neg (by omega), if_pos rfl]
        rfl
      · rw [word8_refill _ (by omega) (by omega), if_neg (by omega), if_neg (by omega), hcode]
  · rw [if_pos hid]
    refine ⟨?_, ?_, ?_⟩
    · rw [word8_refill _ (by omega) (by omega), if_pos rfl]
      rfl
    · rw [word8_refill _ (by omega) (by omega), if_neg (by omega), if_pos rfl]
      rfl
    · rw [word8_refill _ (by omega) (by omega), if_neg (by omega), if_neg (by omega), hcode]

theorem headerEnd_of_headerAt (h : s.HeaderAt k protocolType) : s.headerEnd k = k + 3 := by
  rw [Bitstream.headerEnd, if_neg (not_not_intro h.1), if_neg (not_not_intro h.2.1)]

/-- Whether the header is valid. -/
theorem decides_protocolHeader (protocolType : ProtocolType) :
    Decides (fun r => decide (r = UnpackResult.valid)) 3
      (protocolUnpackHeader kProtocolDefaultId kProtocolDefaultVersion protocolType) := by
  constructor
  intro s s' r hs hroom h
  obtain ⟨k, hk⟩ : ∃ k, s.offset = k := ⟨_, rfl⟩
  have hrefill : ∀ m f, s.refill m f = (s.refill m f).moveTo k := fun m f => by
    rw [Bitstream.moveTo, ← show (s.refill m f).offset = k from hk]
  rw [← s.moveTo_offset, hk] at h
  rw [hk, hs.bound] at hroom
  obtain ⟨rfl, rfl⟩ := protocolHeader_eq_some h
  rw [Bitstream.offset_moveTo, hk]
  refine ⟨(headerEnd_bounds s k).1, ?_⟩
  by_cases hat : s.HeaderAt k protocolType
  · rw [headerEnd_of_headerAt hat, if_pos hat]
    refine ⟨_, alike_refill s (k + 3 - 1) fun _ => 0, fun r' t' h' => ?_⟩
    rw [hrefill] at h'
    have hno : ¬ (s.refill (k + 3 - 1) fun _ => 0).HeaderAt k protocolType := by
      intro hat'
      have hzero := word8_refill (n := k + 3 - 1) (s := s) (i := k + 2) (fun _ => 0) (by omega)
        (by omega)
      have hcode := hzero.symm.trans hat'.2.2
      cases protocolType <;> exact absurd hcode (by decide)
    rw [(protocolHeader_eq_some h').2, if_neg hno]
    decide
  · rw [if_neg hat]
    obtain ⟨f, hf⟩ := headerAt_refill hroom hat
    refine ⟨_, alike_refill s _ f, fun r' t' h' => ?_⟩
    rw [hrefill] at h'
    rw [(protocolHeader_eq_some h').2, if_pos hf]
    decide

/-- What a decoder returns behind a valid header it never returns for another one. -/
theorem decides_afterHeader {β : Type} {b : β} {rest : BitM β} (hrest : Decides id 0 rest)
    (hne : ∀ {t t' x}, rest t = some (x, t') → x ≠ b) :
    Decides id 3 (protocolUnpackHeader kProtocolDefaultId kProtocolDefaultVersion protocolType >>=
      fun unpackResult => if unpackResult ≠ .valid then pure b else rest) := by
  refine Decides.bind_or (v := 0) (local_protocolHeader _ _ _) (atMost_protocolHeader _ _ _)
    (decides_protocolHeader _) fun r => ?_
  by_cases hvalid : r = .valid
  · rw [if_neg (not_not_intro hvalid)]
    exact .inl hrest
  · refine .inr ⟨b, if_pos hvalid, fun r' b' t t' hdiffers h' heq => ?_⟩
    have hvalid' : r' = .valid := by
      by_contra hno
      exact hdiffers (by rw [decide_eq_false hno, decide_eq_false hvalid])
    rw [if_neg (not_not_intro hvalid')] at h'
    exact hne h' heq

theorem decides_streamHeader (sequence ack ackBitField : UInt32) :
    Decides id 3 (streamProtocolUnpackHeader sequence ack ackBitField) := by
  refine decides_afterHeader (.bind local_uint32 fun x => .bind local_uint32 fun y =>
    decides_uint32.map fun z z' h => congrArg (·.2.2.2) h) fun h => ?_
  obtain ⟨x, s₁, -, h⟩ := bind_eq_some h
  obtain ⟨y, s₂, -, h⟩ := bind_eq_some h
  obtain ⟨z, s₃, -, hpure⟩ := bind_eq_some h
  cases hpure
  exact fun heq => by cases heq

theorem decides_transactionHeader (transactionId transactionType : UInt32) :
    Decides id 3 (transactionProtocolUnpackHeader transactionId transactionType) := by
  refine decides_afterHeader (.bind local_uint8 fun x =>
    decides_uint8.map fun y y' h => congrArg (·.2.2) h) fun h => ?_
  obtain ⟨x, s₁, -, h⟩ := bind_eq_some h
  obtain ⟨y, s₂, -, hpure⟩ := bind_eq_some h
  cases hpure
  exact fun heq => by cases heq

end Headers

/-! ## Messages -/

theorem decides_streamData (object : StreamObject) :
    Decides id 0 (streamProtocolUnpackData object) := by
  refine Decides.bind local_uint64 fun tag => ?_
  refine (decides_block object.data local_uint16 decides_uint16
    (g := fun length x => (UnpackResult.valid, StreamObject.mk x.2 length tag))
      fun l x l' x' h => ?_ :)
  exact ⟨congrArg (·.2.length) h, congrArg (·.2.data) h⟩

/-- **The last byte read of a stream packet decides what is decoded.** -/
theorem decides_stream (sequence ack ackBitField : UInt32) (object : StreamObject) :
    Decides id 15 (decodeStream sequence ack ackBitField object) := by
  refine Decides.bind_or (v := 0) (local_streamHeader _ _ _) (atMost_streamHeader _ _ _)
    ((decides_streamHeader _ _ _).mono (by decide)) fun x => ?_
  obtain ⟨r, header⟩ := x
  by_cases hvalid : r = .valid
  · left
    dsimp only
    rw [if_neg (not_not_intro hvalid)]
    refine ((decides_streamData _).map (g := fun y => (y.1, header, y.2)) fun y y' h => ?_ :)
    exact Prod.ext (congrArg (·.1) h) (congrArg (·.2.2) h)
  · refine .inr ⟨(r, header, object), if_pos hvalid, ?_⟩
    rintro ⟨r', header'⟩ b' t t' hne h' heq
    by_cases hvalid' : r' = .valid
    · dsimp only at h'
      rw [if_neg (not_not_intro hvalid')] at h'
      obtain ⟨⟨r'', object'⟩, s₁, hdata, hpure⟩ := bind_eq_some h'
      obtain ⟨x₁, s₂, -, hdata⟩ := bind_eq_some hdata
      obtain ⟨x₂, s₃, -, hdata⟩ := bind_eq_some hdata
      obtain ⟨x₃, s₄, -, hdata⟩ := bind_eq_some hdata
      cases hdata
      cases hpure
      exact hvalid (congrArg (·.1) heq).symm
    · dsimp only at h'
      rw [if_pos hvalid'] at h'
      cases h'
      exact hne (Prod.ext (congrArg (·.1) heq) (congrArg (·.2.1) heq))

/-- What follows the header of a transaction. -/
def decodeTransactionBody (memory : ObjectMemory) :
    UnpackResult × UInt32 × UInt32 → BitM (UnpackResult × UInt32 × UInt32 × TransactionBody)
  | (unpackResult, transactionId, transactionType) => do
    if unpackResult ≠ .valid then
      return (unpackResult, transactionId, transactionType, .other)
    if transactionType = TransactionType.response.code then
      let (result, responseType) ← transactionProtocolUnpackResponse
      return (.valid, transactionId, transactionType, .response result responseType)
    else if transactionType = TransactionType.request.code then
      let (result, object) ← transactionProtocolUnpackRequest memory
      return (.valid, transactionId, transactionType, .request result object)
    else
      return (.valid, transactionId, transactionType, .other)

theorem decodeTransaction_eq (memory : ObjectMemory) (transactionId transactionType : UInt32) :
    decodeTransaction memory transactionId transactionType =
      transactionProtocolUnpackHeader transactionId transactionType >>=
        decodeTransactionBody memory := rfl

/-- The header is returned as it was read. -/
theorem transactionBody_header {memory : ObjectMemory} {header : UnpackResult × UInt32 × UInt32}
    {s s' : Bitstream} {x : UnpackResult × UInt32 × UInt32 × TransactionBody}
    (h : decodeTransactionBody memory header s = some (x, s')) :
    (x.1, x.2.1, x.2.2.1) = header := by
  obtain ⟨r, transactionId, transactionType⟩ := header
  rw [decodeTransactionBody] at h
  split at h
  · cases h
    rfl
  rename_i hvalid
  obtain rfl := not_not.1 hvalid
  split at h
  · obtain ⟨y, s₁, -, hpure⟩ := bind_eq_some h
    cases hpure
    rfl
  split at h
  · obtain ⟨y, s₁, -, hpure⟩ := bind_eq_some h
    cases hpure
    rfl
  · cases h
    rfl

/-- **The last byte read of a transaction decides what is decoded.** -/
theorem decides_transaction (memory : ObjectMemory) (transactionId transactionType : UInt32) :
    Decides id 61 (decodeTransaction memory transactionId transactionType) := by
  rw [decodeTransaction_eq]
  refine Decides.bind_or (v := 56) (local_transactionHeader _ _) (atMost_transactionHeader _ _)
    ((decides_transactionHeader _ _).mono (by decide)) fun x => ?_
  have hpure : ∀ b, decodeTransactionBody memory x = pure b → ∃ b,
      decodeTransactionBody memory x = pure b ∧ ∀ x' b' t t', id x' ≠ id x →
        decodeTransactionBody memory x' t = some (b', t') → id b' ≠ id b := by
    intro b hb
    refine ⟨b, hb, fun x' b' t t' hne h' heq => hne ?_⟩
    have hheader := transactionBody_header (s := t) (congrFun hb t)
    rw [← transactionBody_header h', ← hheader, show b' = b from heq]
  obtain ⟨r, transactionId, type⟩ := x
  by_cases hvalid : r = .valid
  · subst hvalid
    by_cases hresponse : type = TransactionType.response.code
    · left
      rw [decodeTransactionBody, if_neg (not_not_intro rfl), if_pos hresponse]
      have hbyte : Decides id 0 transactionProtocolUnpackResponse :=
        decides_uint8.map fun y y' h => congrArg (·.2) h
      refine ((hbyte.mono (Nat.zero_le 56)).map (g := fun y =>
        (UnpackResult.valid, transactionId, type, TransactionBody.response y.1 y.2))
          fun y y' h => ?_ :)
      have hbody := TransactionBody.response.inj (congrArg (·.2.2.2) h)
      exact Prod.ext hbody.1 hbody.2
    by_cases hrequest : type = TransactionType.request.code
    · left
      rw [decodeTransactionBody, if_neg (not_not_intro rfl), if_neg hresponse, if_pos hrequest]
      refine ((decides_request memory).map (g := fun y =>
        (UnpackResult.valid, transactionId, type, TransactionBody.request y.1 y.2))
          fun y y' h => ?_ :)
      have hbody := TransactionBody.request.inj (congrArg (·.2.2.2) h)
      exact Prod.ext hbody.1 hbody.2
    · exact .inr (hpure _ (by
        rw [decodeTransactionBody, if_neg (not_not_intro rfl), if_neg hresponse, if_neg hrequest]))
  · exact .inr (hpure _ (by rw [decodeTransactionBody, if_pos hvalid]))

end UniversalNetwork
