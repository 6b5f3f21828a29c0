import UniversalNetwork.Bitstream.Bounds

/-!
# Sequences of writes

`BitstreamWrite` is a call of one of the write operations, `wire` the bytes it is to put on the
stream and `size` their number, as the operation's own test has it.

* `writes_allOrNothing`: in any sequence of calls each one writes all its bytes or nothing, and
  the bytes outside the part that was written are kept.
* `backPatch_inOrder`: the header of a message written last, into the space skipped for it, gives
  the stream that writing in order gives.
-/

namespace UniversalNetwork

open Lib

/-- A call of a write operation, with memory of the caller that is large enough. -/
inductive BitstreamWrite
  | uint8 (src : UInt32)
  | uint16 (src : UInt32)
  | uint16Endian (src : UInt32)
  | uint32 (src : UInt32)
  | uint32Endian (src : UInt32)
  | uint64 (src : UInt64)
  | float32 (p : UInt32)
  | bytes (src : List UInt8) (length : Nat) (h : length ≤ src.length)
  | str {n : Nat} (src : Vector UInt8 n) (h : Terminated src)

namespace BitstreamWrite

def write : BitstreamWrite → BitM Unit
  | uint8 src => bitstreamWriteUint8 src
  | uint16 src => bitstreamWriteUint16 src
  | uint16Endian src => bitstreamWriteUint16Endian src
  | uint32 src => bitstreamWriteUint32 src
  | uint32Endian src => bitstreamWriteUint32Endian src
  | uint64 src => bitstreamWriteUint64 src
  | float32 p => bitstreamWriteFloat32 p
  | bytes src length _ => do
    let _ ← bitstreamWriteBytes src length
    return ()
  | str src _ => do
    let _ ← bitstreamWriteStr src.toList
    return ()

def size : BitstreamWrite → Nat
  | uint8 _ => 1
  | uint16 _ | uint16Endian _ => 2
  | uint32 _ | uint32Endian _ | float32 _ => 4
  | uint64 _ => 8
  | bytes _ length _ => length
  | str src _ => (cstr src).length + 1

def wire : BitstreamWrite → List UInt8
  | uint8 src => wire8 src
  | uint16 src => wire16 src
  | uint16Endian src => (wire16 src).reverse
  | uint32 src | float32 src => wire32 src
  | uint32Endian src => (wire32 src).reverse
  | uint64 src => wire64 src
  | bytes src length _ => (src.take length).reverse
  | str src _ => wireStr (cstr src)

theorem length_wire (op : BitstreamWrite) : op.wire.length = op.size := by
  cases op with
  | bytes src length h => simp [wire, size, h]
  | str src h => simp [wire, size, wireStr, wire8]
  | _ => rfl

theorem writes_write (op : BitstreamWrite) : Writes op.write op.wire () := by
  cases op with
  | uint8 src => exact writes_uint8 src
  | uint16 src => exact writes_uint16 src
  | uint16Endian src => exact writes_uint16Endian src
  | uint32 src => exact writes_uint32 src
  | uint32Endian src => exact writes_uint32Endian src
  | uint64 src => exact writes_uint64 src
  | float32 p => exact writes_uint32 p
  | bytes src length h => exact (writes_writeBytes h).map fun _ => ()
  | str src h => exact (writes_str h.cstring).map fun _ => ()

theorem write_skip (op : BitstreamWrite) {stream : Bitstream} (h : ¬ stream.bytesDoFit op.size) :
    op.write stream = some ((), stream) := by
  cases op with
  | bytes src length hlen => exact (bind_run (writeBytes_skip src h)).trans rfl
  | str src hnull => exact (bind_run (writeStr_skip hnull.cstring.strlen h)).trans rfl
  | _ => exact putAll_skip h

end BitstreamWrite

def writeAll (ops : List BitstreamWrite) : BitM Unit := ops.forM BitstreamWrite.write

def wireAll (ops : List BitstreamWrite) : List UInt8 := ops.flatMap BitstreamWrite.wire

def encodedSize (ops : List BitstreamWrite) : Nat := (ops.map BitstreamWrite.size).sum

theorem length_wireAll (ops : List BitstreamWrite) : (wireAll ops).length = encodedSize ops := by
  simp only [wireAll, encodedSize, List.length_flatMap, BitstreamWrite.length_wire]

theorem wireAll_append (ops ops' : List BitstreamWrite) :
    wireAll (ops ++ ops') = wireAll ops ++ wireAll ops' :=
  List.flatMap_append

theorem writes_all (ops : List BitstreamWrite) : Writes (writeAll ops) (wireAll ops) () :=
  writes_forM BitstreamWrite.wire fun op _ => op.writes_write

/-! ## All or nothing -/

/-- The bytes before the offset of `stream` and from that of `stream'` on are kept. -/
structure KeepsOutside (stream stream' : Bitstream) : Prop where
  bound : stream'.bound = stream.bound
  length : stream'.data.length = stream.data.length
  offset_le : stream.offset ≤ stream'.offset
  outside : ∀ i, i < stream.offset ∨ stream'.offset ≤ i → stream'.data[i]? = stream.data[i]?

theorem KeepsOutside.refl (stream : Bitstream) : KeepsOutside stream stream :=
  ⟨rfl, rfl, Nat.le_refl _, fun _ _ => rfl⟩

theorem KeepsOutside.trans {s t u : Bitstream} (hst : KeepsOutside s t) (htu : KeepsOutside t u) :
    KeepsOutside s u where
  bound := htu.bound.trans hst.bound
  length := htu.length.trans hst.length
  offset_le := Nat.le_trans hst.offset_le htu.offset_le
  outside := by
    intro i hi
    have h₁ := hst.offset_le
    have h₂ := htu.offset_le
    rw [htu.outside i (by omega), hst.outside i (by omega)]

theorem keepsOutside_emit {stream : Bitstream} {bs : List UInt8}
    (h : stream.offset + bs.length ≤ stream.data.length) :
    KeepsOutside stream (stream.emit bs) where
  bound := rfl
  length := length_overwrite h
  offset_le := Nat.le_add_right _ _
  outside := fun _ hi => getElem?_overwrite_of_outside h hi

/-- `op` took `stream` to `stream'`: with all its bytes, or not at all. -/
structure AllOrNothing (op : BitstreamWrite) (stream stream' : Bitstream) : Prop where
  keeps : KeepsOutside stream stream'
  all : stream.offset + op.size ≤ stream.bound →
    stream'.offset = stream.offset + op.size ∧ HasAt stream'.data stream.offset op.wire
  nothing : stream.bound < stream.offset + op.size → stream' = stream

theorem Bitstream.Inside.write {bound : Nat} {stream : Bitstream} (h : stream.Inside bound)
    (op : BitstreamWrite) : ∃ stream', op.write stream = some ((), stream') ∧
      stream'.Inside bound ∧ AllOrNothing op stream stream' := by
  have hlen := op.length_wire
  by_cases hfit : stream.offset + op.size ≤ bound
  · rw [← hlen] at hfit
    have hdata : stream.offset + op.wire.length ≤ stream.data.length := by
      rw [← h.sized.bound, h.bound_eq]
      exact hfit
    refine ⟨_, op.writes_write stream h.sized (h.bound_eq ▸ hfit), h.emit hfit,
      keepsOutside_emit hdata, fun _ => ⟨?_, hasAt_overwrite hdata⟩, ?_⟩
    · rw [← hlen]
      rfl
    · rw [h.bound_eq]
      omega
  · refine ⟨stream, op.write_skip (mt h.bytesDoFit_iff.1 hfit), h, .refl _, ?_, fun _ => rfl⟩
    rw [h.bound_eq]
    exact fun hle => absurd hle hfit

theorem Bitstream.Inside.writeAll {bound : Nat} {stream : Bitstream} (h : stream.Inside bound)
    (ops : List BitstreamWrite) : ∃ stream', writeAll ops stream = some ((), stream') ∧
      stream'.Inside bound ∧ KeepsOutside stream stream' := by
  induction ops generalizing stream with
  | nil => exact ⟨stream, rfl, h, .refl _⟩
  | cons op ops ih =>
    obtain ⟨s, hs, hin, hop⟩ := h.write op
    obtain ⟨t, ht, hin', hkeep⟩ := ih hin
    exact ⟨t, (bind_run hs).trans ht, hin', hop.keeps.trans hkeep⟩

/-- **Writes are all or nothing**, whatever was written or left out before. -/
theorem writes_allOrNothing {stream : Bitstream} (hsized : stream.Sized)
    (hoff : stream.offset ≤ stream.bound) (ops : List BitstreamWrite) :
    (∀ pre op post, ops = pre ++ op :: post → ∃ before after,
      writeAll pre stream = some ((), before) ∧ op.write before = some ((), after) ∧
      AllOrNothing op before after ∧ after.offset ≤ stream.bound) ∧
    ∃ final, writeAll ops stream = some ((), final) ∧ KeepsOutside stream final ∧
      final.offset ≤ stream.bound := by
  have hin : stream.Inside stream.bound := ⟨hsized, rfl, hoff⟩
  constructor
  · intro pre op post _
    obtain ⟨before, hpre, hbefore, -⟩ := hin.writeAll pre
    obtain ⟨after, hop, hafter, hall⟩ := hbefore.write op
    exact ⟨before, after, hpre, hop, hall, hafter.offset_le⟩
  · obtain ⟨final, hfinal, hin', hkeep⟩ := hin.writeAll ops
    exact ⟨final, hfinal, hkeep, hin'.offset_le⟩

/-- A string that does not fit between two integers that do. -/
theorem writes_allOrNothing_string :
    let ops : List BitstreamWrite := [.uint16 300, .str #v[72, 105, 0] (by decide), .uint8 7]
    ∃ final, writeAll ops (bitstreamCreate [0, 0, 0, 0] 4) = some ((), final) ∧
      KeepsOutside (bitstreamCreate [0, 0, 0, 0] 4) final ∧ final.offset ≤ 4 :=
  have hsized : (bitstreamCreate [0, 0, 0, 0] 4).Sized := ⟨rfl, by decide⟩
  (writes_allOrNothing hsized (by decide) _).2

example : writeAll [.uint16 300, .str #v[72, 105, 0] (by decide), .uint8 7]
    (bitstreamCreate [0, 0, 0, 0] 4) = some ((), ⟨[1, 44, 7, 0], 3, 4⟩) := by
  decide

/-! ## Back-patching -/

/-- The header `hs` is written after the body `ws`, into the space skipped for it. -/
def backPatch (hs ws : List BitstreamWrite) : BitM Unit := do
  let snapshot := bitstreamSnapshot (← get)
  bitstreamSkipBytes (encodedSize hs)
  writeAll ws
  let (stream, snapshot) := bitstreamRollback (← get) snapshot
  set stream
  writeAll hs
  let (stream, _) := bitstreamRollover (← get) snapshot
  set stream

theorem skipBytes_fits {stream : Bitstream} (hs : stream.Sized) {length : Nat}
    (hfit : stream.offset + length ≤ stream.bound) :
    bitstreamSkipBytes length stream = some ((), stream.advance length) := by
  have hlt : stream.offset + length < 2 ^ 64 := Nat.lt_of_le_of_lt hfit hs.size
  rw [bitstreamSkipBytes, if_pos (hs.bytesDoFit hfit), Nat.mod_eq_of_lt hlt]
  simp only [if_neg (Nat.not_lt.2 hfit)]
  rfl

/-- The stream with the body in place and the offset back at the header. -/
theorem backPatch_emit {stream : Bitstream} {hs ws : List UInt8}
    (h : stream.offset + (hs ++ ws).length ≤ stream.data.length) :
    { ((stream.advance hs.length).emit ws).moveTo stream.offset |>.emit hs with
      offset := stream.offset + hs.length + ws.length } = stream.emit (hs ++ ws) := by
  rw [List.length_append, ← Nat.add_assoc] at h
  simp only [Bitstream.emit, Bitstream.advance, Bitstream.moveTo, overwrite_before h,
    List.length_append, Nat.add_assoc]

theorem writes_backPatch (hs ws : List BitstreamWrite) :
    Writes (backPatch hs ws) (wireAll (hs ++ ws)) () := by
  intro stream hsized hfit
  rw [wireAll_append] at hfit ⊢
  have hdata : stream.offset + (wireAll hs ++ wireAll ws).length ≤ stream.data.length :=
    hsized.bound ▸ hfit
  rw [List.length_append, length_wireAll hs] at hfit
  have hskip : bitstreamSkipBytes (encodedSize hs) stream = some ((), stream.advance _) :=
    skipBytes_fits hsized (by omega)
  have hadvance : (stream.advance (encodedSize hs)).Sized := ⟨hsized.bound, hsized.size⟩
  have hroom : stream.offset + encodedSize hs + (wireAll ws).length ≤ stream.bound := by omega
  have hbody := writes_all ws _ hadvance hroom
  have hback : (((stream.advance (encodedSize hs)).emit (wireAll ws)).moveTo stream.offset).Sized :=
    ⟨(hadvance.emit hroom).bound, hsized.size⟩
  have hhead := writes_all hs _ hback (by
    rw [length_wireAll]
    simp only [Bitstream.moveTo, Bitstream.emit, Bitstream.advance]
    omega)
  rw [← backPatch_emit hdata, length_wireAll hs]
  rw [backPatch, get_run, bind_run hskip, bind_run hbody, get_run]
  dsimp only [bitstreamSnapshot, bitstreamRollback]
  rw [set_run, ← Bitstream.moveTo, bind_run hhead, get_run]
  rfl

/-- **Back-patching is writing in order**, for any number of messages one after another. -/
theorem backPatch_inOrder {stream : Bitstream} (hsized : stream.Sized)
    (patterns : List (List BitstreamWrite × List BitstreamWrite))
    (hfit : stream.offset + (patterns.map fun p => encodedSize p.1 + encodedSize p.2).sum ≤
      stream.bound) :
    ∃ final, patterns.forM (fun p => backPatch p.1 p.2) stream = some ((), final) ∧
      writeAll (patterns.flatMap fun p => p.1 ++ p.2) stream = some ((), final) := by
  have hpatch : Writes (patterns.forM fun p => backPatch p.1 p.2) _ () :=
    writes_forM (fun p => wireAll (p.1 ++ p.2)) fun p _ => writes_backPatch p.1 p.2
  have horder := writes_all (patterns.flatMap fun p => p.1 ++ p.2)
  have hwire : wireAll (patterns.flatMap fun p => p.1 ++ p.2) =
      patterns.flatMap fun p => wireAll (p.1 ++ p.2) := List.flatMap_assoc
  have hlen : (patterns.flatMap fun p => wireAll (p.1 ++ p.2)).length =
      (patterns.map fun p => encodedSize p.1 + encodedSize p.2).sum := by
    simp only [List.length_flatMap, wireAll_append, List.length_append, length_wireAll]
  rw [hwire] at horder
  rw [← hlen] at hfit
  exact ⟨_, hpatch stream hsized hfit, horder stream hsized hfit⟩

/-- Two messages with a length before the body. -/
theorem backPatch_inOrder_two :
    let patterns : List (List BitstreamWrite × List BitstreamWrite) :=
      [([.uint16 4], [.uint32 70000]), ([.uint8 3], [.str #v[72, 105, 0] (by decide)])]
    let stream := bitstreamCreate (List.replicate 12 0) 12
    ∃ final, patterns.forM (fun p => backPatch p.1 p.2) stream = some ((), final) ∧
      writeAll (patterns.flatMap fun p => p.1 ++ p.2) stream = some ((), final) :=
  backPatch_inOrder ⟨rfl, by decide⟩ _ (by decide)

end UniversalNetwork
