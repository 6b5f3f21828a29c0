import UniversalNetwork.Bitstream
import UniversalNetwork.Lib.Segment
import Mathlib.Data.List.TakeWhile

/-!
# What the bit stream operations put on the wire

`Writes w bs a`: on a stream with room for `bs`, `w` writes exactly `bs` at the offset and returns
`a`. `Reads r bs a`: on a stream that holds `bs` at the offset, `r` consumes exactly `bs` and
returns `a`. Both compose along `>>=` (`Writes.bind`, `Reads.bind`), and each operation of
`bitstream.c` has one rule of each kind. A packer and an unpacker with the same `bs` are in step.
-/

namespace UniversalNetwork

open Lib

/-- The bound is the size of the block, and a `size_t`. -/
structure Bitstream.Sized (stream : Bitstream) : Prop where
  bound : stream.bound = stream.data.length
  size : stream.bound < 2 ^ 64

theorem Bitstream.Sized.bytesDoFit {stream : Bitstream} (h : stream.Sized) {bytes : Nat}
    (hfit : stream.offset + bytes ≤ stream.bound) : stream.bytesDoFit bytes := by
  unfold Bitstream.bytesDoFit
  have := h.size
  omega

def Bitstream.advance (stream : Bitstream) (bytes : Nat) : Bitstream :=
  { stream with offset := stream.offset + bytes }

/-- The stream after `bs` was written at the offset. -/
def Bitstream.emit (stream : Bitstream) (bs : List UInt8) : Bitstream :=
  { stream with
    data := overwrite stream.data stream.offset bs, offset := stream.offset + bs.length }

theorem Bitstream.emit_append {stream : Bitstream} {bs cs : List UInt8}
    (h : stream.offset + (bs ++ cs).length ≤ stream.data.length) :
    (stream.emit bs).emit cs = stream.emit (bs ++ cs) := by
  rw [List.length_append, ← Nat.add_assoc] at h
  simp only [Bitstream.emit, overwrite_overwrite h, List.length_append, Nat.add_assoc]

theorem Bitstream.Sized.emit {stream : Bitstream} (h : stream.Sized) {bs : List UInt8}
    (hfit : stream.offset + bs.length ≤ stream.bound) : (stream.emit bs).Sized where
  bound := by
    have := h.bound
    simp only [Bitstream.emit]
    rw [length_overwrite (by omega), h.bound]
  size := h.size

/-! ## The two specifications -/

def Writes {α : Type} (w : BitM α) (bs : List UInt8) (a : α) : Prop :=
  ∀ stream : Bitstream, stream.Sized → stream.offset + bs.length ≤ stream.bound →
    w stream = some (a, stream.emit bs)

def Reads {α : Type} (r : BitM α) (bs : List UInt8) (a : α) : Prop :=
  ∀ stream : Bitstream, stream.Sized → stream.offset ≤ stream.bound →
    HasAt stream.data stream.offset bs → r stream = some (a, stream.advance bs.length)

section Rules

variable {α β : Type} {bs cs : List UInt8} {a : α} {b : β}

theorem bind_run {r : BitM α} {f : α → BitM β} {stream stream' : Bitstream}
    (h : r stream = some (a, stream')) : (r >>= f) stream = f a stream' := by
  simp only [Bind.bind, StateT.bind, h, Option.bind_some]

theorem get_run {f : Bitstream → BitM α} (stream : Bitstream) :
    (get >>= f) stream = f stream stream := rfl

theorem set_run {f : PUnit → BitM α} (stream stream' : Bitstream) :
    (set stream' >>= f) stream = f ⟨⟩ stream' := rfl

theorem writes_pure : Writes (pure a) [] a := by
  intro stream _ _
  show some (a, stream) = some (a, stream.emit [])
  simp [Bitstream.emit]

theorem reads_pure : Reads (pure a) [] a := by
  intro stream _ _ _
  rfl

theorem Writes.bind {w : BitM α} {f : α → BitM β} (hw : Writes w bs a) (hf : Writes (f a) cs b) :
    Writes (w >>= f) (bs ++ cs) b := by
  intro stream hs hfit
  have hfit' := hfit
  rw [List.length_append] at hfit'
  rw [← Bitstream.emit_append (by rw [← hs.bound]; exact hfit)]
  have h₁ := hw stream hs (by omega)
  have h₂ := hf (stream.emit bs) (hs.emit (by omega)) (by simp only [Bitstream.emit]; omega)
  rw [bind_run h₁, h₂]

theorem Reads.bind {r : BitM α} {f : α → BitM β} (hr : Reads r bs a) (hf : Reads (f a) cs b) :
    Reads (r >>= f) (bs ++ cs) b := by
  intro stream hs hoff hat
  obtain ⟨hbs, hcs⟩ := hasAt_append.1 hat
  have hlen := hbs.le_length (by have := hs.bound; omega)
  have h₁ := hr stream hs hoff hbs
  have h₂ := hf (stream.advance bs.length) ⟨hs.bound, hs.size⟩
    (by have := hs.bound; simp only [Bitstream.advance]; omega) hcs
  rw [bind_run h₁, h₂]
  simp only [Bitstream.advance, List.length_append, Nat.add_assoc]

/-- A read at the end of a sequence adds nothing after it. -/
theorem Reads.map {r : BitM α} (hr : Reads r bs a) (f : α → β) :
    Reads (r >>= fun x => pure (f x)) bs (f a) := by
  have h := hr.bind (f := fun x => pure (f x)) (reads_pure (a := f a))
  rwa [List.append_nil] at h

theorem Writes.map {w : BitM α} (hw : Writes w bs a) (f : α → β) :
    Writes (w >>= fun x => pure (f x)) bs (f a) := by
  have h := hw.bind (f := fun x => pure (f x)) (writes_pure (a := f a))
  rwa [List.append_nil] at h

/-- An access that is defined. -/
theorem access_bind {x : Option α} {f : α → BitM β} (h : x = some a) :
    BitM.access x >>= f = f a := by
  subst h
  rfl

theorem writes_access {x : Option α} {f : α → BitM β} (h : x = some a) (hf : Writes (f a) bs b) :
    Writes (BitM.access x >>= f) bs b := by
  rwa [access_bind h]

/-- With room for `bs`, a test for at most its length succeeds. -/
theorem writes_ifFits {n : Nat} {w w' : BitM α} (hn : n ≤ bs.length) (h : Writes w bs a) :
    Writes (do if (← get).bytesDoFit n then w else w') bs a := by
  intro stream hs hfit
  have hfits : stream.bytesDoFit n := hs.bytesDoFit (by omega)
  rw [get_run, if_pos hfits, h stream hs hfit]

theorem ifFits_skip {n : Nat} {w w' : BitM α} {stream : Bitstream}
    (h : ¬ stream.bytesDoFit n) :
    (do if (← get).bytesDoFit n then w else w' : BitM α) stream = w' stream := by
  rw [get_run, if_neg h]

theorem reads_access {x : Option α} {f : α → BitM β} (h : x = some a) (hf : Reads (f a) bs b) :
    Reads (BitM.access x >>= f) bs b := by
  rwa [access_bind h]

/-- **A packer and an unpacker of the same bytes**, through a fresh stream that has room. -/
theorem Writes.roundTrip {w : BitM α} {r : BitM β} (hw : Writes w bs a) (hr : Reads r bs b)
    {data : List UInt8} {bound : Nat} (hdata : data.length = bound) (hbound : bound < 2 ^ 64)
    (hfit : bs.length ≤ bound) : ∃ stream, w (bitstreamCreate data bound) = some (a, stream) ∧
      r (bitstreamReset stream) = some (b, stream) ∧ stream.offset = bs.length := by
  have hsized : (bitstreamCreate data bound).Sized := ⟨hdata.symm, hbound⟩
  have hroom : (bitstreamCreate data bound).offset + bs.length ≤ bound := by
    simpa [bitstreamCreate] using hfit
  have hemit := hsized.emit hroom
  have hread := hr (bitstreamReset ((bitstreamCreate data bound).emit bs))
    ⟨hemit.bound, hemit.size⟩ (Nat.zero_le _) (hasAt_overwrite (hsized.bound ▸ hroom))
  exact ⟨_, hw _ hsized hroom, hread, Nat.zero_add _⟩

end Rules

/-! ## Bytes and blocks -/

theorem writes_put (byte : UInt8) : Writes (bitstreamPut byte) [byte] () := by
  intro stream hs hfit
  have hlt : stream.offset < stream.data.length := by
    have := hs.bound
    simp only [List.length_singleton] at hfit
    omega
  simp [bitstreamPut, hlt, Bitstream.emit, set_eq_overwrite hlt]

theorem reads_take (byte : UInt8) : Reads bitstreamTake [byte] byte := by
  intro stream _ _ hat
  simp [bitstreamTake, hat.head, Bitstream.advance]

theorem writes_forM {α : Type} {w : α → BitM Unit} (wire : α → List UInt8) {as : List α}
    (h : ∀ a ∈ as, Writes (w a) (wire a) ()) : Writes (as.forM w) (as.flatMap wire) () := by
  induction as with
  | nil => exact writes_pure
  | cons a as ih =>
    obtain ⟨ha, has⟩ := List.forall_mem_cons.1 h
    exact ha.bind (f := fun _ => as.forM w) (ih has)

theorem writes_putEach (bytes : List UInt8) : Writes (bytes.forM bitstreamPut) bytes () := by
  have h : Writes (bytes.forM bitstreamPut) (bytes.flatMap fun byte => [byte]) () :=
    writes_forM _ fun byte _ => writes_put byte
  rwa [List.flatMap_singleton'] at h

theorem writes_putAll (bytes : List UInt8) : Writes (bitstreamPutAll bytes) bytes () :=
  writes_ifFits (Nat.le_refl _) (writes_putEach bytes)

/-- Without room nothing is written. -/
theorem putAll_skip {bytes : List UInt8} {stream : Bitstream}
    (h : ¬ stream.bytesDoFit bytes.length) : bitstreamPutAll bytes stream = some ((), stream) := by
  rw [bitstreamPutAll, ifFits_skip h]
  rfl

theorem writeBytes_skip (src : List UInt8) {length : Nat} {stream : Bitstream}
    (h : ¬ stream.bytesDoFit length) : bitstreamWriteBytes src length stream = some (0, stream) :=
  if_neg h

/-- The block after `n` copies: the last `n` bytes of the segment are in place. -/
theorem writeBytesLoop_eq {src data : List UInt8} {offset length : Nat}
    (hsrc : length ≤ src.length) (hfit : offset + length ≤ data.length) :
    ∀ n ≤ length, writeBytesLoop src data offset length n =
      some (overwrite data (offset + length - n) (src.take n).reverse) := by
  intro n
  induction n with
  | zero => simp [writeBytesLoop]
  | succ n ih =>
    intro hn
    have hlen : ((src.take n).reverse).length = n := by
      rw [List.length_reverse, List.length_take]
      omega
    have hdata : (overwrite data (offset + length - n) (src.take n).reverse).length =
        data.length := length_overwrite (by omega)
    have hbyte : src[n]? = some (src[n]) := List.getElem?_eq_getElem (by omega)
    simp only [writeBytesLoop, ih (by omega), Option.bind_eq_bind, Option.bind_some, hbyte,
      hdata, if_pos (by omega : offset + length - n - 1 < data.length), Option.some.injEq]
    refine List.ext_getElem? fun i => ?_
    have htake : (src.take (n + 1)).reverse = src[n] :: (src.take n).reverse := by
      rw [List.take_succ_eq_append_getElem (by omega), List.reverse_append]
      rfl
    rw [htake, List.getElem?_set, getElem?_overwrite (by omega),
      getElem?_overwrite (by simp only [List.length_cons, hlen]; omega), hdata, List.length_cons,
      hlen]
    rcases Nat.lt_trichotomy i (offset + length - n - 1) with hi | hi | hi
    · rw [if_neg (by omega), if_neg (by omega), if_neg (by omega)]
    · rw [if_pos (by omega), if_pos (by omega), if_pos (by omega),
        (by omega : i - (offset + length - (n + 1)) = 0), List.getElem?_cons_zero]
    · rw [if_neg (by omega)]
      split
      · rw [if_pos (by omega), (by omega : i - (offset + length - (n + 1)) =
          i - (offset + length - n) + 1), List.getElem?_cons_succ]
      · rw [if_neg (by omega)]

theorem writes_writeBytes {src : List UInt8} {length : Nat} (h : length ≤ src.length) :
    Writes (bitstreamWriteBytes src length) (src.take length).reverse length := by
  intro stream hs hfit
  have hlen : ((src.take length).reverse).length = length := by
    rw [List.length_reverse, List.length_take]
    omega
  rw [hlen] at hfit
  have hloop := writeBytesLoop_eq h (by rw [← hs.bound]; exact hfit) length (Nat.le_refl _)
  rw [Nat.add_sub_cancel] at hloop
  simp [bitstreamWriteBytes, hs.bytesDoFit hfit, hloop, Bitstream.emit, hlen]

theorem readBytesLoop_eq {m : Nat} {data bs : List UInt8} (dest : Vector UInt8 m) {offset : Nat}
    (hat : HasAt data offset bs) (hm : bs.length ≤ m) :
    ∀ n ≤ bs.length, readBytesLoop data dest offset bs.length n =
      some (patch dest (bs.reverse.take n)) := by
  intro n
  induction n with
  | zero => simp [readBytesLoop, patch_nil]
  | succ n ih =>
    intro hn
    have hlen : (bs.reverse.take n).length = n := by
      rw [List.length_take, List.length_reverse]
      omega
    have hn' : n < bs.reverse.length := by
      rw [List.length_reverse]
      omega
    have hbyte : data[offset + bs.length - n - 1]? = some bs.reverse[n] := by
      have := hat.get? (i := bs.length - 1 - n) (by omega)
      rw [List.getElem_reverse, ← this]
      congr 1
      omega
    have hstore := store_patch dest (bs.reverse.take n) bs.reverse[n] (by omega)
    rw [hlen] at hstore
    simp only [readBytesLoop, ih (by omega), Option.bind_eq_bind, Option.bind_some, hbyte, hstore]
    rw [List.take_succ_eq_append_getElem hn']

theorem reads_readBytes {m : Nat} (dest : Vector UInt8 m) (bs : List UInt8) (h : bs.length ≤ m) :
    Reads (bitstreamReadBytes dest bs.length) bs.reverse (bs.length, patch dest bs) := by
  intro stream hs hoff hat
  have hfit := hat.le_length (by have := hs.bound; omega)
  rw [List.length_reverse, ← hs.bound] at hfit
  have hloop := readBytesLoop_eq dest hat (by simpa using h) bs.length (by simp)
  rw [List.length_reverse, List.reverse_reverse, List.take_length] at hloop
  simp [bitstreamReadBytes, hs.bytesDoFit hfit, hloop, Bitstream.advance]

/-! ## Byte lanes -/

/-- The byte of a word at bit `s`, in its place. -/
def lane {w : Nat} (x : BitVec w) (s : Nat) : BitVec w := ((x >>> s).setWidth 8).setWidth w <<< s

theorem lane_zero {w : Nat} (x : BitVec w) : (x.setWidth 8).setWidth w = lane x 0 := by
  simp only [lane, BitVec.ushiftRight_zero, BitVec.shiftLeft_zero]

theorem getLsbD_lane {w : Nat} (x : BitVec w) (s i : Nat) :
    (lane x s).getLsbD i = (decide (s ≤ i ∧ i < s + 8) && x.getLsbD i) := by
  unfold lane
  rw [BitVec.getLsbD_shiftLeft, BitVec.getLsbD_setWidth, BitVec.getLsbD_setWidth,
    BitVec.getLsbD_ushiftRight]
  rcases Nat.lt_or_ge i s with h | h
  · simp [h, Nat.not_le.2 h]
  rw [Nat.add_sub_cancel' h]
  cases hx : x.getLsbD i with
  | false => simp
  | true =>
    have hi := BitVec.lt_of_getLsbD hx
    have h₁ : i - s < 8 ↔ i < s + 8 := by omega
    have h₂ : i - s < w := by omega
    simp [h, h₁, h₂, hi, Nat.not_lt.2 h]

/-- A bit of a word is in the lane of its byte. -/
theorem lanes32 (x : BitVec 32) : lane x 24 ||| lane x 16 ||| lane x 8 ||| lane x 0 = x := by
  refine BitVec.eq_of_getLsbD_eq fun i hi => ?_
  simp only [BitVec.getLsbD_or, getLsbD_lane]
  cases x.getLsbD i with
  | false => simp
  | true =>
    simp
    omega

theorem lanes64 (x : BitVec 64) : lane x 56 ||| lane x 48 ||| lane x 40 ||| lane x 32 |||
    lane x 24 ||| lane x 16 ||| lane x 8 ||| lane x 0 = x := by
  refine BitVec.eq_of_getLsbD_eq fun i hi => ?_
  simp only [BitVec.getLsbD_or, getLsbD_lane]
  cases x.getLsbD i with
  | false => simp
  | true =>
    simp
    omega

theorem lanes16 (x : BitVec 32) : lane x 8 ||| lane x 0 = (x.setWidth 16).setWidth 32 := by
  refine BitVec.eq_of_getLsbD_eq fun i hi => ?_
  simp only [BitVec.getLsbD_or, getLsbD_lane, BitVec.getLsbD_setWidth]
  cases x.getLsbD i with
  | false => simp
  | true =>
    rw [Bool.eq_iff_iff]
    simp only [hi, Bool.or_eq_true, Bool.and_eq_true, decide_eq_true_eq, and_true, true_and]
    omega

theorem and_mask32 (x : UInt32) : (x &&& 0xFF).toUInt8 = x.toUInt8 := by
  apply UInt8.toNat_inj.1
  rw [UInt32.toNat_toUInt8, UInt32.toNat_and, UInt32.toNat_toUInt8,
    show (0xFF : UInt32).toNat = 2 ^ 8 - 1 from rfl, Nat.and_two_pow_sub_one_eq_mod]
  exact Nat.mod_mod _ _

theorem and_mask64 (x : UInt64) : (x &&& 0xFF).toUInt8 = x.toUInt8 := by
  apply UInt8.toNat_inj.1
  rw [UInt64.toNat_toUInt8, UInt64.toNat_and, UInt64.toNat_toUInt8,
    show (0xFF : UInt64).toNat = 2 ^ 8 - 1 from rfl, Nat.and_two_pow_sub_one_eq_mod]
  exact Nat.mod_mod _ _

/-! ## Unsigned integers -/

def wire8 (x : UInt32) : List UInt8 := [x.toUInt8]

/-- High byte first. -/
def wire16 (x : UInt32) : List UInt8 := [(x >>> 8).toUInt8, x.toUInt8]

def wire32 (x : UInt32) : List UInt8 :=
  [(x >>> 24).toUInt8, (x >>> 16).toUInt8, (x >>> 8).toUInt8, x.toUInt8]

def wire64 (x : UInt64) : List UInt8 :=
  [(x >>> 56).toUInt8, (x >>> 48).toUInt8, (x >>> 40).toUInt8, (x >>> 32).toUInt8,
    (x >>> 24).toUInt8, (x >>> 16).toUInt8, (x >>> 8).toUInt8, x.toUInt8]

theorem writes_uint8 (x : UInt32) : Writes (bitstreamWriteUint8 x) (wire8 x) () := by
  rw [bitstreamWriteUint8, and_mask32]
  exact writes_putAll _

theorem reads_uint8 (x : UInt32) : Reads bitstreamReadUint8 (wire8 x) x.toUInt8.toUInt32 :=
  (reads_take _).map _

theorem writes_uint16 (x : UInt32) : Writes (bitstreamWriteUint16 x) (wire16 x) () := by
  rw [bitstreamWriteUint16, and_mask32, and_mask32]
  exact writes_putAll _

theorem word16 (x : UInt32) :
    ((x >>> 8).toUInt8.toUInt32 <<< 8) ||| x.toUInt8.toUInt32 = x.toUInt16.toUInt32 := by
  rw [← UInt32.toBitVec_inj]
  exact (congrArg _ (lane_zero _)).trans (lanes16 x.toBitVec)

theorem reads_uint16 (x : UInt32) :
    Reads bitstreamReadUint16 (wire16 x) x.toUInt16.toUInt32 := by
  rw [← word16]
  exact (reads_take _).bind ((reads_take _).map _)

theorem writes_uint16Endian (x : UInt32) :
    Writes (bitstreamWriteUint16Endian x) (wire16 x).reverse () := by
  rw [bitstreamWriteUint16Endian, and_mask32, and_mask32]
  exact writes_putAll _

theorem reads_uint16Endian (x : UInt32) :
    Reads bitstreamReadUint16Endian (wire16 x).reverse x.toUInt16.toUInt32 := by
  rw [← word16, UInt32.or_comm]
  exact (reads_take _).bind ((reads_take _).map _)

theorem writes_uint32 (x : UInt32) : Writes (bitstreamWriteUint32 x) (wire32 x) () := by
  rw [bitstreamWriteUint32, and_mask32, and_mask32, and_mask32]
  exact writes_putAll _

theorem word32 (x : UInt32) :
    ((x >>> 24).toUInt8.toUInt32 <<< 24) ||| ((x >>> 16).toUInt8.toUInt32 <<< 16) |||
      ((x >>> 8).toUInt8.toUInt32 <<< 8) ||| x.toUInt8.toUInt32 = x := by
  rw [← UInt32.toBitVec_inj]
  exact (congrArg _ (lane_zero _)).trans (lanes32 x.toBitVec)

theorem reads_uint32 (x : UInt32) : Reads bitstreamReadUint32 (wire32 x) x := by
  have h : Reads bitstreamReadUint32 (wire32 x) _ :=
    (reads_take _).bind ((reads_take _).bind ((reads_take _).bind ((reads_take _).map _)))
  rwa [word32] at h

theorem writes_uint32Endian (x : UInt32) :
    Writes (bitstreamWriteUint32Endian x) (wire32 x).reverse () := by
  rw [bitstreamWriteUint32Endian, and_mask32, and_mask32, and_mask32]
  exact writes_putAll _

theorem reads_uint32Endian (x : UInt32) :
    Reads bitstreamReadUint32Endian (wire32 x).reverse x := by
  have h : Reads bitstreamReadUint32Endian (wire32 x).reverse _ :=
    (reads_take _).bind ((reads_take _).bind ((reads_take _).bind ((reads_take _).map _)))
  have hword : x.toUInt8.toUInt32 ||| ((x >>> 8).toUInt8.toUInt32 <<< 8) |||
      ((x >>> 16).toUInt8.toUInt32 <<< 16) ||| ((x >>> 24).toUInt8.toUInt32 <<< 24) = x := by
    rw [UInt32.or_comm _ ((x >>> 24).toUInt8.toUInt32 <<< 24),
      UInt32.or_comm _ ((x >>> 16).toUInt8.toUInt32 <<< 16), UInt32.or_comm x.toUInt8.toUInt32,
      ← UInt32.or_assoc, ← UInt32.or_assoc]
    exact word32 x
  rwa [hword] at h

theorem writes_uint64 (x : UInt64) : Writes (bitstreamWriteUint64 x) (wire64 x) () := by
  rw [bitstreamWriteUint64, and_mask64, and_mask64, and_mask64]
  exact writes_putAll _

theorem word64 (x : UInt64) :
    ((x >>> 56).toUInt8.toUInt64 <<< 56) ||| ((x >>> 48).toUInt8.toUInt64 <<< 48) |||
      ((x >>> 40).toUInt8.toUInt64 <<< 40) ||| ((x >>> 32).toUInt8.toUInt64 <<< 32) |||
      ((x >>> 24).toUInt8.toUInt64 <<< 24) ||| ((x >>> 16).toUInt8.toUInt64 <<< 16) |||
      ((x >>> 8).toUInt8.toUInt64 <<< 8) ||| x.toUInt8.toUInt64 = x := by
  rw [← UInt64.toBitVec_inj]
  exact (congrArg _ (lane_zero _)).trans (lanes64 x.toBitVec)

theorem reads_uint64 (x : UInt64) : Reads bitstreamReadUint64 (wire64 x) x := by
  have h : Reads bitstreamReadUint64 (wire64 x) _ :=
    (reads_take _).bind ((reads_take _).bind ((reads_take _).bind ((reads_take _).bind
      ((reads_take _).bind ((reads_take _).bind ((reads_take _).bind ((reads_take _).map _)))))))
  rwa [word64] at h

/-! ## Strings -/

/-- The array holds the C string `s`. -/
structure CString {n : Nat} (v : Vector UInt8 n) (s : List UInt8) : Prop where
  start : s ++ [0] <+: v.toList
  noNull : 0 ∉ s

theorem CString.length_lt {n : Nat} {v : Vector UInt8 n} {s : List UInt8} (h : CString v s) :
    s.length < n := by
  have := h.start.length_le
  rw [List.length_append, List.length_singleton, Vector.length_toList] at this
  omega

theorem CString.strlen {n : Nat} {v : Vector UInt8 n} {s : List UInt8} (h : CString v s) :
    strlen v.toList = some s.length := by
  obtain ⟨r, hr⟩ := h.start
  have hs : s.findIdx? (· == 0) = none := by
    rw [List.findIdx?_eq_none_iff]
    intro x hx
    simpa using fun h0 : x = 0 => h.noNull (h0 ▸ hx)
  rw [UniversalNetwork.strlen, ← hr, List.append_assoc, List.findIdx?_append, hs]
  simp [List.findIdx?_cons]

theorem CString.take {n : Nat} {v : Vector UInt8 n} {s : List UInt8} (h : CString v s) :
    v.toList.take s.length = s := by
  obtain ⟨r, hr⟩ := h.start
  rw [← hr, List.append_assoc, List.take_left]

theorem cstring_patch {n : Nat} (v : Vector UInt8 n) {s : List UInt8} (hlen : s.length < n)
    (h : 0 ∉ s) : CString (patch v (s ++ [0])) s where
  start := by
    rw [toList_patch _ _ (by simp; omega)]
    exact List.prefix_append _ _
  noNull := h

/-- The characters before the first null. -/
def cstr {n : Nat} (v : Vector UInt8 n) : List UInt8 := v.toList.takeWhile (· != 0)

def Terminated {n : Nat} (v : Vector UInt8 n) : Prop := 0 ∈ v.toList

instance {n : Nat} (v : Vector UInt8 n) : Decidable (Terminated v) :=
  inferInstanceAs (Decidable (_ ∈ _))

theorem takeWhile_null_prefix {l : List UInt8} (h : 0 ∈ l) : l.takeWhile (· != 0) ++ [0] <+: l := by
  induction l with
  | nil => cases h
  | cons x l ih =>
    rcases Decidable.em (x = 0) with hx | hx
    · subst hx
      exact List.prefix_append [0] l
    · rw [List.takeWhile_cons_of_pos (by simpa using hx), List.cons_append, List.cons_prefix_cons]
      exact ⟨rfl, ih (List.mem_of_ne_of_mem (Ne.symm hx) h)⟩

theorem Terminated.cstring {n : Nat} {v : Vector UInt8 n} (h : Terminated v) :
    CString v (cstr v) where
  start := takeWhile_null_prefix h
  noNull := fun h0 => by simpa using List.mem_takeWhile_imp h0

theorem CString.cstr_eq {n : Nat} {v : Vector UInt8 n} {s : List UInt8} (h : CString v s) :
    cstr v = s := by
  obtain ⟨r, hr⟩ := h.start
  rw [cstr, ← hr, List.append_assoc, List.takeWhile_append_of_pos]
  · simp
  · intro x hx
    simpa using fun h0 : x = 0 => h.noNull (h0 ▸ hx)

/-- The length byte, then the characters last to first. -/
def wireStr (s : List UInt8) : List UInt8 := wire8 (UInt32.ofNat s.length) ++ s.reverse

theorem writes_str {n : Nat} {v : Vector UInt8 n} {s : List UInt8} (h : CString v s) :
    Writes (bitstreamWriteStr v.toList) (wireStr s) s.length := by
  have hlen := h.length_lt
  have hbytes : Writes (bitstreamWriteBytes v.toList s.length) s.reverse s.length := by
    have hb := @writes_writeBytes v.toList s.length (by rw [Vector.length_toList]; omega)
    rwa [h.take] at hb
  refine writes_access h.strlen (writes_ifFits ?_ ?_)
  · rw [wireStr, wire8, List.length_append, List.length_reverse, List.length_singleton]
    omega
  · exact (writes_uint8 _).bind (hbytes.map _)

theorem writeStr_skip {src : List UInt8} {length : Nat} {stream : Bitstream}
    (hlen : strlen src = some length) (h : ¬ stream.bytesDoFit (length + 1)) :
    bitstreamWriteStr src stream = some (0, stream) := by
  rw [bitstreamWriteStr, access_bind hlen, ifFits_skip h]
  rfl

theorem reads_str {n : Nat} (dest : Vector UInt8 n) {s : List UInt8} (hlen : s.length < n)
    (hbyte : s.length < 256) {maxlength : Nat} (hmax : s.length < maxlength) :
    Reads (bitstreamReadStr dest maxlength) (wireStr s) (s.length, patch dest (s ++ [0])) := by
  have hword : (UInt32.ofNat s.length).toUInt8.toUInt32.toNat = s.length := by
    simp
    omega
  refine (reads_uint8 _).bind ?_
  rw [hword, if_neg (by omega), ← List.append_nil s.reverse]
  exact (reads_readBytes dest s (by omega)).bind
    (reads_access (store_patch dest s 0 hlen) reads_pure)

end UniversalNetwork
