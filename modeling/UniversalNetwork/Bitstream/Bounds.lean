import UniversalNetwork.Bitstream.Locality
import UniversalNetwork.Lib.Machine

/-!
# Accesses inside the bound

`Fixed w r`: `r` reads exactly `w` bytes at the offset, whatever they are, and faults exactly when
the block does not have them. The reads of integers are fixed (`fixed_uint8`, …) and they alone do
not test the bound.

* `Inside.obeys_step`: an operation accesses the block outside its bytes exactly when it is a
  fixed-width read with too few bytes left; every other operation, on any lengths and from any
  snapshot, stays inside.
* `operations_inside_iff`: the same for a whole run from `bitstream_create`.
-/

namespace UniversalNetwork

open Lib

/-! ## Reads of a fixed width -/

section MoveTo

variable (stream : Bitstream) (k : Nat)

@[simp] theorem Bitstream.offset_moveTo : (stream.moveTo k).offset = k := rfl

@[simp] theorem Bitstream.data_moveTo : (stream.moveTo k).data = stream.data := rfl

@[simp] theorem Bitstream.bound_moveTo : (stream.moveTo k).bound = stream.bound := rfl

@[simp] theorem Bitstream.moveTo_moveTo (l : Nat) : (stream.moveTo k).moveTo l = stream.moveTo l :=
  rfl

@[simp] theorem Bitstream.moveTo_offset : stream.moveTo stream.offset = stream := rfl

end MoveTo

structure Fixed {α : Type} (w : Nat) (r : BitM α) : Prop where
  moves : ∀ {stream stream' : Bitstream} {a : α}, r stream = some (a, stream') →
    stream' = stream.moveTo (stream.offset + w)
  isSome : ∀ stream : Bitstream, (r stream).isSome ↔ stream.offset + w ≤ stream.data.length

section Rules

variable {α β : Type} {v w : Nat}

theorem isSome_bind {r : BitM α} {f : α → BitM β} {stream : Bitstream} :
    ((r >>= f) stream).isSome ↔
      ∃ a stream', r stream = some (a, stream') ∧ (f a stream').isSome := by
  simp only [Bind.bind, StateT.bind]
  cases r stream with
  | none => simp
  | some x =>
    obtain ⟨a, stream'⟩ := x
    simp

theorem Fixed.moves_to {r : BitM α} (hr : Fixed w r) {stream stream' : Bitstream} {k : Nat} {a : α}
    (h : r (stream.moveTo k) = some (a, stream')) : stream' = stream.moveTo (k + w) :=
  hr.moves h

theorem fixed_take : Fixed 1 bitstreamTake where
  moves := by
    intro stream stream' a h
    obtain ⟨x, -, he⟩ := Option.map_eq_some_iff.1 h
    cases he
    rfl
  isSome := by
    intro stream
    rw [Nat.succ_le_iff]
    simp [bitstreamTake]

theorem Fixed.map {r : BitM α} (hr : Fixed w r) (f : α → β) :
    Fixed w (r >>= fun x => pure (f x)) where
  moves := by
    intro stream stream' b h
    obtain ⟨a, s, hs, hpure⟩ := bind_eq_some h
    cases hpure
    exact hr.moves hs
  isSome := by
    intro stream
    rw [isSome_bind, ← hr.isSome, Option.isSome_iff_exists]
    exact ⟨fun ⟨a, s, hs, _⟩ => ⟨_, hs⟩, fun ⟨x, hx⟩ => ⟨x.1, x.2, hx, rfl⟩⟩

theorem Fixed.bind {r : BitM α} {f : α → BitM β} (hr : Fixed w r) (hf : ∀ a, Fixed v (f a)) :
    Fixed (w + v) (r >>= f) where
  moves := by
    intro stream stream' b h
    obtain ⟨a, s, hs, hb⟩ := bind_eq_some h
    rw [hr.moves hs] at hb
    rw [(hf a).moves hb, Bitstream.moveTo_moveTo, Bitstream.offset_moveTo, Nat.add_assoc]
  isSome := by
    intro stream
    rw [isSome_bind]
    constructor
    · rintro ⟨a, s, hs, hb⟩
      rw [hr.moves hs, (hf a).isSome] at hb
      simp only [Bitstream.offset_moveTo, Bitstream.data_moveTo] at hb
      omega
    · intro hle
      obtain ⟨x, hx⟩ := Option.isSome_iff_exists.1 ((hr.isSome stream).2 (by omega))
      refine ⟨x.1, x.2, hx, ((hf x.1).isSome x.2).2 ?_⟩
      rw [hr.moves hx]
      simp only [Bitstream.offset_moveTo, Bitstream.data_moveTo]
      omega

end Rules

/-! ### Reads that may stop early -/

/-- `r` reads at most `w` bytes, and does not fault where the block has them. -/
def AtMost {α : Type} (w : Nat) (r : BitM α) : Prop :=
  ∀ stream : Bitstream, stream.offset + w ≤ stream.data.length →
    ∃ a k, r stream = some (a, stream.moveTo k) ∧ k ≤ stream.offset + w

section AtMost

variable {α β : Type} {v w : Nat}

theorem Fixed.atMost {r : BitM α} (hr : Fixed w r) : AtMost w r := by
  intro stream hdata
  obtain ⟨⟨a, stream'⟩, ha⟩ := Option.isSome_iff_exists.1 ((hr.isSome stream).2 hdata)
  obtain rfl := hr.moves ha
  exact ⟨a, _, ha, Nat.le_refl _⟩

theorem atMost_pure (a : α) : AtMost w (pure a : BitM α) :=
  fun stream _ => ⟨a, stream.offset, rfl, Nat.le_add_right _ _⟩

theorem atMost_ite {p : Prop} [Decidable p] {r r' : BitM α} (hr : AtMost w r)
    (hr' : AtMost w r') : AtMost w (if p then r else r') := by
  split
  · exact hr
  · exact hr'

theorem AtMost.bind {r : BitM α} {f : α → BitM β} (hr : AtMost v r) (hf : ∀ a, AtMost w (f a)) :
    AtMost (v + w) (r >>= f) := by
  intro stream hdata
  obtain ⟨a, k, ha, hk⟩ := hr stream (by omega)
  obtain ⟨b, l, hb, hl⟩ := hf a (stream.moveTo k) (by
    rw [Bitstream.offset_moveTo, Bitstream.data_moveTo]
    omega)
  rw [Bitstream.offset_moveTo] at hl
  exact ⟨b, l, (bind_run ha).trans hb, by omega⟩

end AtMost

theorem fixed_uint8 : Fixed 1 bitstreamReadUint8 := fixed_take.map _

theorem fixed_uint16 : Fixed 2 bitstreamReadUint16 := fixed_take.bind fun _ => fixed_take.map _

theorem fixed_uint16Endian : Fixed 2 bitstreamReadUint16Endian :=
  fixed_take.bind fun _ => fixed_take.map _

theorem fixed_uint32 : Fixed 4 bitstreamReadUint32 :=
  fixed_take.bind (v := 3) fun _ => fixed_take.bind (v := 2) fun _ => fixed_take.bind fun _ =>
    fixed_take.map _

theorem fixed_uint32Endian : Fixed 4 bitstreamReadUint32Endian :=
  fixed_take.bind (v := 3) fun _ => fixed_take.bind (v := 2) fun _ => fixed_take.bind fun _ =>
    fixed_take.map _

theorem fixed_uint64 : Fixed 8 bitstreamReadUint64 :=
  fixed_take.bind (v := 7) fun _ => fixed_take.bind (v := 6) fun _ =>
    fixed_take.bind (v := 5) fun _ => fixed_take.bind (v := 4) fun _ =>
    fixed_take.bind (v := 3) fun _ => fixed_take.bind (v := 2) fun _ => fixed_take.bind fun _ =>
    fixed_take.map _

/-! ## Operations that test the bound -/

/-- A stream on a block of `bound` bytes, with the offset inside it. -/
structure Bitstream.Inside (bound : Nat) (stream : Bitstream) : Prop where
  sized : stream.Sized
  bound_eq : stream.bound = bound
  offset_le : stream.offset ≤ bound

theorem Bitstream.Inside.moveTo {bound k : Nat} {stream : Bitstream} (h : stream.Inside bound)
    (hk : k ≤ bound) : (stream.moveTo k).Inside bound :=
  ⟨⟨h.sized.bound, h.sized.size⟩, h.bound_eq, hk⟩

theorem Bitstream.Inside.emit {bound : Nat} {stream : Bitstream} (h : stream.Inside bound)
    {bs : List UInt8} (hfit : stream.offset + bs.length ≤ bound) : (stream.emit bs).Inside bound :=
  ⟨h.sized.emit (h.bound_eq ▸ hfit), h.bound_eq, hfit⟩

theorem Bitstream.Inside.bytesDoFit_iff {bound bytes : Nat} {stream : Bitstream}
    (h : stream.Inside bound) : stream.bytesDoFit bytes ↔ stream.offset + bytes ≤ bound := by
  obtain ⟨hsized, hbound, hoff⟩ := h
  rw [← hbound] at hoff ⊢
  exact ⟨hsized.le_of_bytesDoFit hoff, hsized.bytesDoFit⟩

/-- `w` accesses no byte outside the block and leaves the offset inside it. -/
def Contained {α : Type} (w : BitM α) : Prop :=
  ∀ (bound : Nat) (stream : Bitstream), stream.Inside bound →
    ∃ a stream', w stream = some (a, stream') ∧ stream'.Inside bound

section Contained

variable {α β : Type}

theorem contained_pure (a : α) : Contained (pure a : BitM α) :=
  fun _ stream h => ⟨a, stream, rfl, h⟩

theorem Contained.bind {w : BitM α} {f : α → BitM β} (hw : Contained w)
    (hf : ∀ a, Contained (f a)) : Contained (w >>= f) := by
  intro bound stream h
  obtain ⟨a, stream₁, h₁, hin₁⟩ := hw bound stream h
  obtain ⟨b, stream₂, h₂, hin₂⟩ := hf a bound stream₁ hin₁
  exact ⟨b, stream₂, (bind_run h₁).trans h₂, hin₂⟩

/-- A write that puts its bytes when they fit and does nothing otherwise. -/
theorem Writes.contained {w : BitM α} {bs : List UInt8} {a b : α} (hw : Writes w bs a)
    (hskip : ∀ stream : Bitstream, ¬ stream.bytesDoFit bs.length → w stream = some (b, stream)) :
    Contained w := by
  intro bound stream h
  by_cases hfit : stream.bytesDoFit bs.length
  · rw [h.bytesDoFit_iff] at hfit
    exact ⟨a, _, hw stream h.sized (h.bound_eq ▸ hfit), h.emit hfit⟩
  · exact ⟨b, stream, hskip stream hfit, h⟩

theorem contained_putAll (bytes : List UInt8) : Contained (bitstreamPutAll bytes) :=
  (writes_putAll bytes).contained (b := ()) fun _ hfit => putAll_skip hfit

theorem contained_writeBytes {src : List UInt8} {length : Nat} (h : length ≤ src.length) :
    Contained (bitstreamWriteBytes src length) := by
  refine (writes_writeBytes h).contained (b := 0) fun stream hfit => ?_
  rw [List.length_reverse, List.length_take, Nat.min_eq_left h] at hfit
  exact writeBytes_skip src hfit

theorem contained_access {x : Option α} {a : α} {f : α → BitM β} (h : x = some a)
    (hf : Contained (f a)) : Contained (BitM.access x >>= f) := by
  rwa [access_bind h]

theorem contained_ifFits {n : Nat} {w w' : BitM α} (hw : Contained w) (hw' : Contained w') :
    Contained (do if (← get).bytesDoFit n then w else w') := by
  intro bound stream h
  rw [get_run]
  by_cases hfit : stream.bytesDoFit n
  · rw [if_pos hfit]
    exact hw bound stream h
  · rw [if_neg hfit]
    exact hw' bound stream h

theorem contained_writeStr {src : List UInt8} (h : 0 ∈ src) :
    Contained (bitstreamWriteStr src) := by
  obtain ⟨n, hn⟩ : ∃ n, strlen src = some n := by
    apply Option.isSome_iff_exists.1
    simpa [strlen] using h
  have hle : n ≤ src.length := by
    obtain ⟨hlt, -⟩ := List.findIdx?_eq_some_iff_getElem.1 hn
    exact Nat.le_of_lt hlt
  exact contained_access hn (contained_ifFits ((contained_putAll _).bind fun _ =>
    (contained_writeBytes hle).bind fun _ => contained_pure n) (contained_pure 0))

theorem contained_skipBytes (length : Nat) : Contained (bitstreamSkipBytes length) := by
  intro bound stream h
  have hsome : (bitstreamSkipBytes length stream).isSome := by
    rw [bitstreamSkipBytes]
    split <;> rfl
  obtain ⟨⟨a, stream'⟩, ha⟩ := Option.isSome_iff_exists.1 hsome
  obtain ⟨k, rfl, -, hk⟩ :=
    (local_skipBytes length).moves h.sized (h.bound_eq ▸ h.offset_le) ha
  exact ⟨a, _, ha, h.moveTo (h.bound_eq ▸ hk)⟩

/-- With the bytes in the stream the loop of `bitstream_read_bytes` faults at the end of its
destination. -/
theorem readBytesLoop_isSome_iff {m : Nat} {data : List UInt8} (dest : Vector UInt8 m)
    {offset length : Nat} (hdata : offset + length ≤ data.length) :
    ∀ b ≤ length, (readBytesLoop data dest offset length b).isSome ↔ b ≤ m := by
  intro b
  induction b with
  | zero => exact fun _ => iff_of_true rfl (Nat.zero_le m)
  | succ b ih =>
    intro hb
    have hlt : offset + length - b - 1 < data.length := by omega
    have hstep := ih (by omega)
    cases hloop : readBytesLoop data dest offset length b with
    | none =>
      rw [hloop] at hstep
      simp only [Option.isSome_none, Bool.false_eq_true, false_iff] at hstep
      simp only [readBytesLoop, hloop, Option.bind_eq_bind, Option.bind_none, Option.isSome_none,
        Bool.false_eq_true, false_iff]
      omega
    | some dest' =>
      simp only [readBytesLoop, hloop, List.getElem?_eq_getElem hlt, Option.bind_eq_bind,
        Option.bind_some, store]
      split
      · rename_i hbm
        exact iff_of_true rfl hbm
      · rename_i hbm
        exact iff_of_false Bool.false_ne_true hbm

theorem contained_readBytes {m : Nat} (dest : Vector UInt8 m) {length : Nat} (h : length ≤ m) :
    Contained (bitstreamReadBytes dest length) := by
  intro bound stream hin
  have hsome : (bitstreamReadBytes dest length stream).isSome := by
    rw [bitstreamReadBytes]
    split
    · rename_i hfit
      rw [hin.bytesDoFit_iff, ← hin.bound_eq, hin.sized.bound] at hfit
      obtain ⟨dest', hdest'⟩ := Option.isSome_iff_exists.1
        ((readBytesLoop_isSome_iff dest hfit length (Nat.le_refl _)).2 h)
      rw [hdest']
      rfl
    · rfl
  obtain ⟨⟨a, stream'⟩, ha⟩ := Option.isSome_iff_exists.1 hsome
  obtain ⟨k, rfl, -, hk⟩ :=
    (local_readBytes dest length).moves hin.sized (hin.bound_eq ▸ hin.offset_le) ha
  exact ⟨a, _, ha, hin.moveTo (hin.bound_eq ▸ hk)⟩

/-- Only the length byte of a string is read untested. -/
theorem readStr_isSome_iff {m : Nat} (dest : Vector UInt8 m) {maxlength : Nat} (h : maxlength ≤ m)
    {bound : Nat} {stream : Bitstream} (hin : stream.Inside bound) :
    (bitstreamReadStr dest maxlength stream).isSome ↔ stream.offset + 1 ≤ bound := by
  have hbound : stream.data.length = bound := by rw [← hin.sized.bound, hin.bound_eq]
  rw [bitstreamReadStr, isSome_bind]
  constructor
  · rintro ⟨x, stream', hx, -⟩
    rw [← hbound, ← fixed_uint8.isSome, hx]
    rfl
  · intro hle
    obtain ⟨⟨x, stream'⟩, hx⟩ :=
      Option.isSome_iff_exists.1 ((fixed_uint8.isSome stream).2 (hbound ▸ hle))
    refine ⟨x, stream', hx, ?_⟩
    rw [fixed_uint8.moves hx]
    have hrest := hin.moveTo hle
    by_cases hmax : x.toNat + 1 > maxlength
    · simp only [if_pos hmax]
      rfl
    · have hread : Contained (do
          let y ← bitstreamReadBytes dest x.toNat
          let dest ← BitM.access (store y.2 x.toNat 0)
          return (x.toNat, dest) : BitM (Nat × Vector UInt8 m)) :=
        (contained_readBytes dest (by omega)).bind fun y =>
          contained_access (store_of_lt y.2 (by omega) 0) (contained_pure _)
      obtain ⟨a, stream', ha, -⟩ := hread bound _ hrest
      simp only [if_neg hmax]
      rw [ha]
      rfl

end Contained

/-! ## Runs -/

/-- A call of the interface, with memory of the caller that is large enough. -/
inductive BitstreamOp
  | reset
  | skipBytes (length : Nat)
  | snapshot
  | rollback (i : Nat)
  | rollover (i : Nat)
  | writeBytes (src : List UInt8) (length : Nat) (h : length ≤ src.length)
  | readBytes {m : Nat} (dest : Vector UInt8 m) (length : Nat) (h : length ≤ m)
  | writeUint8 (src : UInt32)
  | readUint8
  | writeUint16 (src : UInt32)
  | readUint16
  | writeUint16Endian (src : UInt32)
  | readUint16Endian
  | writeUint32 (src : UInt32)
  | readUint32
  | writeUint32Endian (src : UInt32)
  | readUint32Endian
  | writeUint64 (src : UInt64)
  | readUint64
  | writeFloat32 (p : UInt32)
  | readFloat32
  | writeStr (src : List UInt8) (h : 0 ∈ src)
  | readStr {m : Nat} (dest : Vector UInt8 m) (maxlength : Nat) (h : maxlength ≤ m)

/-- A stream and the snapshots taken of it. -/
structure BitstreamState where
  stream : Bitstream
  snapshots : List BitstreamSnapshot

namespace BitstreamState

def create (data : List UInt8) : BitstreamState := ⟨bitstreamCreate data data.length, []⟩

/-- A read or a write. -/
def apply {α : Type} (state : BitstreamState) (x : BitM α) : Option BitstreamState :=
  (x state.stream).map fun y => { state with stream := y.2 }

/-- The stream and one of its snapshots, together. -/
def exchange (state : BitstreamState) (i : Nat)
    (f : Bitstream → BitstreamSnapshot → Bitstream × BitstreamSnapshot) : BitstreamState :=
  match state.snapshots[i]? with
  | none => state
  | some snapshot =>
    { stream := (f state.stream snapshot).1
      snapshots := state.snapshots.set i (f state.stream snapshot).2 }

def step (state : BitstreamState) : BitstreamOp → Option BitstreamState
  | .reset => some { state with stream := bitstreamReset state.stream }
  | .skipBytes length => state.apply (bitstreamSkipBytes length)
  | .snapshot =>
    some { state with snapshots := state.snapshots ++ [bitstreamSnapshot state.stream] }
  | .rollback i => some (state.exchange i bitstreamRollback)
  | .rollover i => some (state.exchange i bitstreamRollover)
  | .writeBytes src length _ => state.apply (bitstreamWriteBytes src length)
  | .readBytes dest length _ => state.apply (bitstreamReadBytes dest length)
  | .writeUint8 src => state.apply (bitstreamWriteUint8 src)
  | .readUint8 => state.apply bitstreamReadUint8
  | .writeUint16 src => state.apply (bitstreamWriteUint16 src)
  | .readUint16 => state.apply bitstreamReadUint16
  | .writeUint16Endian src => state.apply (bitstreamWriteUint16Endian src)
  | .readUint16Endian => state.apply bitstreamReadUint16Endian
  | .writeUint32 src => state.apply (bitstreamWriteUint32 src)
  | .readUint32 => state.apply bitstreamReadUint32
  | .writeUint32Endian src => state.apply (bitstreamWriteUint32Endian src)
  | .readUint32Endian => state.apply bitstreamReadUint32Endian
  | .writeUint64 src => state.apply (bitstreamWriteUint64 src)
  | .readUint64 => state.apply bitstreamReadUint64
  | .writeFloat32 p => state.apply (bitstreamWriteFloat32 p)
  | .readFloat32 => state.apply bitstreamReadFloat32
  | .writeStr src _ => state.apply (bitstreamWriteStr src)
  | .readStr dest maxlength _ => state.apply (bitstreamReadStr dest maxlength)

end BitstreamState

/-- The bytes an operation reads without a test: integers, floats and the length of a string. -/
def BitstreamOp.width : BitstreamOp → Nat
  | .readUint8 | .readStr _ _ _ => 1
  | .readUint16 | .readUint16Endian => 2
  | .readUint32 | .readUint32Endian | .readFloat32 => 4
  | .readUint64 => 8
  | _ => 0

namespace BitstreamState

/-- The bytes that the operation reads untested are left in the stream. -/
def Enough (state : BitstreamState) (op : BitstreamOp) : Prop :=
  state.stream.offset + op.width ≤ state.stream.bound

instance (state : BitstreamState) (op : BitstreamOp) : Decidable (state.Enough op) :=
  inferInstanceAs (Decidable (state.stream.offset + op.width ≤ state.stream.bound))

/-- Every offset that the stream can be at, or be put back to, is inside the block. -/
structure Inside (bound : Nat) (state : BitstreamState) : Prop where
  stream : state.stream.Inside bound
  rollback : ∀ snapshot ∈ state.snapshots, snapshot.rollbackOffset ≤ bound
  rollover : ∀ snapshot ∈ state.snapshots, snapshot.rolloverOffset ≤ bound

section Step

variable {bound : Nat} {state : BitstreamState}

theorem inside_create (data : List UInt8) (h : data.length < 2 ^ 64) :
    (create data).Inside data.length where
  stream := ⟨⟨rfl, h⟩, rfl, Nat.zero_le _⟩
  rollback := by simp [create]
  rollover := by simp [create]

theorem Inside.withStream (h : state.Inside bound) {stream : Bitstream}
    (hs : stream.Inside bound) : Inside bound { state with stream } :=
  ⟨hs, h.rollback, h.rollover⟩

theorem Inside.exchange (h : state.Inside bound) (i : Nat)
    {f : Bitstream → BitstreamSnapshot → Bitstream × BitstreamSnapshot}
    (hf : ∀ (stream : Bitstream) (snapshot : BitstreamSnapshot), stream.Inside bound →
      snapshot.rollbackOffset ≤ bound → snapshot.rolloverOffset ≤ bound →
      (f stream snapshot).1.Inside bound ∧ (f stream snapshot).2.rollbackOffset ≤ bound ∧
        (f stream snapshot).2.rolloverOffset ≤ bound) :
    (state.exchange i f).Inside bound := by
  unfold BitstreamState.exchange
  cases hi : state.snapshots[i]? with
  | none => exact h
  | some snapshot =>
    have hmem := List.mem_of_getElem? hi
    obtain ⟨hstream, hback, hover⟩ := hf state.stream snapshot h.stream (h.rollback _ hmem)
      (h.rollover _ hmem)
    refine ⟨hstream, fun s hs => ?_, fun s hs => ?_⟩
    · rcases List.mem_or_eq_of_mem_set hs with hs | rfl
      · exact h.rollback s hs
      · exact hback
    · rcases List.mem_or_eq_of_mem_set hs with hs | rfl
      · exact h.rollover s hs
      · exact hover

/-- What is to be shown of an operation: it faults exactly with too few bytes, and keeps every
offset inside. -/
def Obeys (bound : Nat) (state : BitstreamState) (width : Nat) (next : Option BitstreamState) : Prop :=
  (next.isSome ↔ state.stream.offset + width ≤ state.stream.bound) ∧
    ∀ state', next = some state' → state'.Inside bound

theorem Inside.obeys_some (h : state.Inside bound) {state' : BitstreamState}
    (h' : state'.Inside bound) : Obeys bound state 0 (some state') := by
  refine ⟨iff_of_true rfl ?_, fun t ht => Option.some.inj ht ▸ h'⟩
  rw [h.stream.bound_eq]
  exact h.stream.offset_le

theorem Inside.obeys_contained {α : Type} (h : state.Inside bound) {w : BitM α}
    (hw : Contained w) : Obeys bound state 0 (state.apply w) := by
  obtain ⟨a, stream', ha, hin⟩ := hw bound state.stream h.stream
  rw [BitstreamState.apply, ha]
  exact h.obeys_some (h.withStream hin)

/-- A read that stays inside when its `width` untested bytes are there. -/
theorem Inside.obeys_read {α : Type} {width : Nat} (h : state.Inside bound) {r : BitM α}
    (hr : Local r) (hsome : (r state.stream).isSome ↔ state.stream.offset + width ≤ bound) :
    Obeys bound state width (state.apply r) := by
  constructor
  · rw [BitstreamState.apply, Option.isSome_map, hsome, h.stream.bound_eq]
  · intro state' hstate'
    obtain ⟨⟨a, stream'⟩, ha, rfl⟩ := Option.map_eq_some_iff.1 hstate'
    obtain ⟨k, rfl, -, hk⟩ :=
      hr.moves h.stream.sized (h.stream.bound_eq ▸ h.stream.offset_le) ha
    exact h.withStream (h.stream.moveTo (h.stream.bound_eq ▸ hk))

theorem Inside.obeys_fixed {α : Type} {width : Nat} (h : state.Inside bound) {r : BitM α}
    (hr : Local r) (hfixed : Fixed width r) : Obeys bound state width (state.apply r) := by
  apply h.obeys_read hr
  rw [hfixed.isSome, ← h.stream.sized.bound, h.stream.bound_eq]

/-- **One operation.** -/
theorem Inside.obeys_step (h : state.Inside bound) (op : BitstreamOp) :
    Obeys bound state op.width (state.step op) := by
  cases op with
  | reset => exact h.obeys_some (h.withStream (h.stream.moveTo (Nat.zero_le _)))
  | skipBytes length => exact h.obeys_contained (contained_skipBytes length)
  | snapshot =>
    have hoff := h.stream.offset_le
    refine h.obeys_some ⟨h.stream, fun s hs => ?_, fun s hs => ?_⟩
    · rcases List.mem_append.1 hs with hs | hs
      · exact h.rollback s hs
      · rw [List.mem_singleton.1 hs]
        exact hoff
    · rcases List.mem_append.1 hs with hs | hs
      · exact h.rollover s hs
      · rw [List.mem_singleton.1 hs]
        exact hoff
  | rollback i =>
    exact h.obeys_some (h.exchange i fun stream snapshot hs hback _ =>
      ⟨hs.moveTo hback, hback, hs.offset_le⟩)
  | rollover i =>
    exact h.obeys_some (h.exchange i fun stream snapshot hs _ hover =>
      ⟨hs.moveTo hover, hs.offset_le, hover⟩)
  | writeBytes src length hlen => exact h.obeys_contained (contained_writeBytes hlen)
  | readBytes dest length hlen => exact h.obeys_contained (contained_readBytes dest hlen)
  | writeUint8 src => exact h.obeys_contained (contained_putAll _)
  | readUint8 => exact h.obeys_fixed local_uint8 fixed_uint8
  | writeUint16 src => exact h.obeys_contained (contained_putAll _)
  | readUint16 => exact h.obeys_fixed local_uint16 fixed_uint16
  | writeUint16Endian src => exact h.obeys_contained (contained_putAll _)
  | readUint16Endian => exact h.obeys_fixed local_uint16Endian fixed_uint16Endian
  | writeUint32 src => exact h.obeys_contained (contained_putAll _)
  | readUint32 => exact h.obeys_fixed local_uint32 fixed_uint32
  | writeUint32Endian src => exact h.obeys_contained (contained_putAll _)
  | readUint32Endian => exact h.obeys_fixed local_uint32Endian fixed_uint32Endian
  | writeUint64 src => exact h.obeys_contained (contained_putAll _)
  | readUint64 => exact h.obeys_fixed local_uint64 fixed_uint64
  | writeFloat32 p => exact h.obeys_contained (contained_putAll _)
  | readFloat32 => exact h.obeys_fixed local_uint32 fixed_uint32
  | writeStr src hnull => exact h.obeys_contained (contained_writeStr hnull)
  | readStr dest maxlength hmax =>
    exact h.obeys_read (local_str _ _) (readStr_isSome_iff dest hmax h.stream)

/-- In every state of the run every access is inside the block and the offset inside the bound. -/
def RunsInside (data : List UInt8) (ops : List BitstreamOp) : Prop :=
  ∀ pre, pre <+: ops → ∃ state, run step (create data) pre = some state ∧
    state.stream.offset ≤ data.length

/-- A run of which every operation has the bytes that it reads untested. -/
theorem Inside.run_isSome (h : state.Inside bound) (ops : List BitstreamOp) :
    (run step state ops).isSome ↔ Along step Enough state ops := by
  induction ops generalizing state with
  | nil => exact iff_of_true rfl trivial
  | cons op ops ih =>
    obtain ⟨hsome, hnext⟩ := h.obeys_step op
    rw [run_cons, Along]
    cases hop : state.step op with
    | none =>
      rw [hop] at hsome
      simp only [Option.bind_none, Option.isSome_none, Bool.false_eq_true, false_iff]
      exact fun hok => Bool.false_ne_true (hsome.2 hok.1)
    | some state' =>
      rw [hop] at hsome
      have henough : state.Enough op := hsome.1 rfl
      simp only [Option.bind_some, ih (hnext state' hop), henough, Option.some.injEq, forall_eq',
        true_and]

/-- **A run stays inside the block exactly when every fixed-width read of it has its bytes.** -/
theorem operations_inside_iff (data : List UInt8) (hsize : data.length < 2 ^ 64)
    (ops : List BitstreamOp) : RunsInside data ops ↔ Along step Enough (create data) ops := by
  have hcreate := inside_create data hsize
  rw [← hcreate.run_isSome ops]
  constructor
  · intro h
    obtain ⟨state, hstate, -⟩ := h ops (List.prefix_refl ops)
    exact Option.isSome_iff_exists.2 ⟨state, hstate⟩
  · rintro hsome pre ⟨rest, rfl⟩
    obtain ⟨final, hfinal⟩ := Option.isSome_iff_exists.1 hsome
    obtain ⟨state, hstate, -⟩ := run_append_eq_some.1 hfinal
    refine ⟨state, hstate, ?_⟩
    have hin := run_inv hcreate (fun s op s' hs hop => (hs.obeys_step op).2 s' hop) hstate
    exact hin.stream.offset_le

end Step

/-- A string that is announced longer than the block, a block that does not fit, and offsets
exchanged with a snapshot. -/
theorem operations_inside_mixed : RunsInside [9, 72, 105]
    [.snapshot, .readStr (Vector.replicate 16 0) 16 (by decide), .writeBytes [1, 2, 3] 3 (by decide),
      .rollback 0, .writeUint16 300, .skipBytes 5, .rollover 0, .readUint16] :=
  (operations_inside_iff [9, 72, 105] (by decide) _).2 (by decide +kernel)

/-- A 16-bit read at the last byte of a block. -/
theorem operations_outside : ¬ RunsInside [7] [.readUint16] := by
  intro h
  obtain ⟨state, hstate, -⟩ := h [.readUint16] (List.prefix_refl _)
  exact absurd hstate (by simp [run, step, BitstreamState.apply, create, bitstreamCreate,
    bitstreamReadUint16, bitstreamTake, Bind.bind, StateT.bind])

end BitstreamState

end UniversalNetwork
