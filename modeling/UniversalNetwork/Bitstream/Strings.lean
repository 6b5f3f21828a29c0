import UniversalNetwork.Bitstream.Bounds

/-!
# Reads of strings

The length byte of a string is consumed before it is known whether the string can be read, and it
is not put back.

* `reads_str_at`: a string that fits is read whole.
* `readStr_short`: one that does not is left, but for its length byte.
* `readStr_allOrNothing_iff`: so a read is all or nothing exactly when the string fits.
-/

namespace UniversalNetwork

open Lib

/-- The bytes after the length byte, in the order of the string. -/
def Bitstream.stringAt (stream : Bitstream) (length : Nat) : List UInt8 :=
  ((stream.data.drop (stream.offset + 1)).take length).reverse

/-- A string of the length fits the destination and is whole in the stream. -/
structure StrFits (stream : Bitstream) (maxlength length : Nat) : Prop where
  dest : length + 1 ≤ maxlength
  stream : stream.offset + 1 + length ≤ stream.bound

/-- All: the length byte and the string are consumed, and the string is in `dest` with a null
after it. Nothing: 0 is returned and `dest` and the stream are what they were. -/
def ReadsAllOrNothing {m : Nat} (stream : Bitstream) (dest : Vector UInt8 m)
    (maxlength length : Nat) : Prop :=
  ∃ n dest' stream', bitstreamReadStr dest maxlength stream = some ((n, dest'), stream') ∧
    (StrFits stream maxlength length → n = length ∧ stream' = stream.advance (1 + length) ∧
      dest' = patch dest (stream.stringAt length ++ [0])) ∧
    (¬ StrFits stream maxlength length → n = 0 ∧ stream' = stream ∧ dest' = dest)

section ReadStr

variable {m maxlength : Nat} {stream : Bitstream} {length : UInt8}

theorem readUint8_at (hlength : stream.data[stream.offset]? = some length) :
    bitstreamReadUint8 stream = some (length.toUInt32, stream.moveTo (stream.offset + 1)) := by
  have htake : bitstreamTake stream = some (length, stream.moveTo (stream.offset + 1)) := by
    rw [bitstreamTake, hlength]
    rfl
  exact bind_run htake

theorem length_stringAt {n : Nat} (h : stream.offset + 1 + n ≤ stream.data.length) :
    (stream.stringAt n).length = n := by
  simp only [Bitstream.stringAt, List.length_reverse, List.length_take, List.length_drop]
  omega

theorem hasAt_stringAt (hlength : stream.data[stream.offset]? = some length)
    (hstream : stream.offset + 1 + length.toNat ≤ stream.data.length) :
    HasAt stream.data stream.offset (wireStr (stream.stringAt length.toNat)) := by
  have hlen := length_stringAt hstream
  have hbyte : (UInt32.ofNat length.toNat).toUInt8 = length := by
    apply UInt8.toNat_inj.1
    simp
  obtain ⟨hlt, hget⟩ := List.getElem?_eq_some_iff.1 hlength
  rw [wireStr, hlen, wire8, hbyte, Bitstream.stringAt, List.reverse_reverse, HasAt,
    List.drop_eq_getElem_cons hlt, hget]
  exact (List.prefix_cons_inj length).2 (List.take_prefix _ _)

/-- **A string that fits.** -/
theorem reads_str_at (hsized : stream.Sized) (hoff : stream.offset ≤ stream.bound)
    (dest : Vector UInt8 m) (hmax : maxlength ≤ m)
    (hlength : stream.data[stream.offset]? = some length)
    (hfits : StrFits stream maxlength length.toNat) :
    bitstreamReadStr dest maxlength stream =
      some ((length.toNat, patch dest (stream.stringAt length.toNat ++ [0])),
        stream.advance (1 + length.toNat)) := by
  have hdata := hfits.stream
  rw [hsized.bound] at hdata
  have hlen := length_stringAt hdata
  have hbyte := length.toNat_lt
  have hdest := hfits.dest
  have hread := reads_str dest (by omega : (stream.stringAt length.toNat).length < m) (by omega)
    (by omega : _ < maxlength) stream hsized hoff (hasAt_stringAt hlength hdata)
  rw [hread, hlen, wireStr, List.length_append, List.length_reverse, hlen]
  rfl

/-- **A string that does not fit**: whatever is returned and stored, one byte is consumed. -/
theorem readStr_short (hsized : stream.Sized) (hoff : stream.offset < stream.bound)
    (dest : Vector UInt8 m) (hmax : maxlength ≤ m)
    (hlength : stream.data[stream.offset]? = some length)
    (hfits : ¬ StrFits stream maxlength length.toNat) :
    ∃ n dest', bitstreamReadStr dest maxlength stream =
      some ((n, dest'), stream.moveTo (stream.offset + 1)) := by
  have hnat : length.toUInt32.toNat = length.toNat := rfl
  rw [bitstreamReadStr, bind_run (readUint8_at hlength), hnat]
  by_cases hdest : length.toNat + 1 > maxlength
  · exact ⟨_, _, by rw [if_pos hdest]; rfl⟩
  have hrest : ¬ (stream.moveTo (stream.offset + 1)).bytesDoFit length.toNat := by
    have hin : (stream.moveTo (stream.offset + 1)).Inside stream.bound :=
      ⟨⟨hsized.bound, hsized.size⟩, rfl, hoff⟩
    rw [hin.bytesDoFit_iff]
    exact fun hle => hfits ⟨Nat.not_lt.1 hdest, hle⟩
  have hread : bitstreamReadBytes dest length.toNat (stream.moveTo (stream.offset + 1)) =
      some ((0, dest), stream.moveTo (stream.offset + 1)) := if_neg hrest
  rw [if_neg hdest, bind_run hread]
  simp only [access_bind (store_of_lt dest (by omega : length.toNat < m) 0)]
  exact ⟨_, _, rfl⟩

theorem not_readsAllOrNothing (hsized : stream.Sized) (hoff : stream.offset < stream.bound)
    (dest : Vector UInt8 m) (hmax : maxlength ≤ m)
    (hlength : stream.data[stream.offset]? = some length)
    (hfits : ¬ StrFits stream maxlength length.toNat) :
    ¬ ReadsAllOrNothing stream dest maxlength length.toNat := by
  rintro ⟨n, dest', stream', hread, -, hnothing⟩
  obtain ⟨-, rfl, -⟩ := hnothing hfits
  obtain ⟨n', dest'', hshort⟩ := readStr_short hsized hoff dest hmax hlength hfits
  rw [hread] at hshort
  have hoffset := congrArg Bitstream.offset (Prod.mk.inj (Option.some.inj hshort)).2
  rw [Bitstream.offset_moveTo] at hoffset
  omega

/-- **A read is all or nothing exactly when the string fits.** -/
theorem readStr_allOrNothing_iff (hsized : stream.Sized) (hoff : stream.offset < stream.bound)
    (dest : Vector UInt8 m) (hmax : maxlength ≤ m)
    (hlength : stream.data[stream.offset]? = some length) :
    ReadsAllOrNothing stream dest maxlength length.toNat ↔
      StrFits stream maxlength length.toNat := by
  constructor
  · intro h
    by_contra hfits
    exact not_readsAllOrNothing hsized hoff dest hmax hlength hfits h
  · intro hfits
    exact ⟨_, _, _, reads_str_at hsized (Nat.le_of_lt hoff) dest hmax hlength hfits,
      fun _ => ⟨rfl, rfl, rfl⟩, fun h => absurd hfits h⟩

end ReadStr

/-- Two characters announced and in the stream. -/
theorem readStr_allOrNothing_whole :
    ReadsAllOrNothing (bitstreamCreate [2, 105, 72] 3) (Vector.replicate 16 0) 16 2 ↔
      StrFits (bitstreamCreate [2, 105, 72] 3) 16 2 :=
  have hsized : (bitstreamCreate [2, 105, 72] 3).Sized := ⟨rfl, by decide⟩
  readStr_allOrNothing_iff hsized (by decide) _ (Nat.le_refl 16) (rfl : _ = some (2 : UInt8))

/-- Five characters announced, two in the stream. -/
theorem readStr_truncated :
    ¬ ReadsAllOrNothing (bitstreamCreate [5, 105, 72] 3) (Vector.replicate 16 0) 16 5 := by
  have hsized : (bitstreamCreate [5, 105, 72] 3).Sized := ⟨rfl, by decide⟩
  apply not_readsAllOrNothing hsized (by decide) _ (Nat.le_refl 16) (rfl : _ = some (5 : UInt8))
  intro hfits
  exact absurd hfits.stream (by decide)

end UniversalNetwork
