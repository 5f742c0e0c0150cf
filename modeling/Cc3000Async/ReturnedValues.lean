import Cc3000Async.ArgumentBlocks
import Cc3000Async.DeviceFrames

/-!
Values in the return buffer. The arguments of a copied event reach it as they stand in
the frame, and a getter reads the word whose bytes stand at its offset. A list of values
sent by the streaming calls is read back at offsets that advance in a byte.
-/
namespace Cc3000Async.ReturnedValues

open ByteMemory ByteBlocks Opcodes TracedAccess DriverState HciFrames EventHandler
open DeviceFrames ArgumentBlocks

/-- The arguments of a copied event are what the return buffer starts with. -/
theorem holds_returnBuffer {op : BitVec 16} {args : List Byte} {data : Mem}
    (h : Holds data 0 (eventFrame op args)) (hlen : args.length < 256)
    (hop : NormalEvent op) (s : State) : Holds (handle data s).returnBuffer 0 args := by
  rw [handle_returnBuffer, copyReturn_event h hlen, if_pos hop]
  exact holds_overlay (event_args h)

section Getters

variable {s : State} {offset : Byte}

theorem val_cc3000GetReturnUint8 (s : State) (offset : Byte) :
    (cc3000GetReturnUint8 s offset).val = s.returnBuffer offset.toNat := by
  have hread : (cc3000GetReturnUint8 s offset).val = s.returnBuffer (0 + offset.toNat) := rfl
  rw [hread, Nat.zero_add]

theorem getReturnUint16_of_holds {v : ℕ}
    (h : Holds s.returnBuffer offset.toNat (toBytes 2 v)) :
    (cc3000GetReturnUint16 s offset).val.toNat = v % 256 ^ 2 := by
  have hlength := length_toBytes 2 v
  have h1 : s.returnBuffer (offset.toNat + 1) = BitVec.ofNat 8 (v / 256) := h 1 (by omega)
  have h0 : s.returnBuffer (offset.toNat + 0) = BitVec.ofNat 8 v := h 0 (by omega)
  have hword : (cc3000GetReturnUint16 s offset).val =
      word16 (s.returnBuffer (1 + offset.toNat)) (s.returnBuffer (0 + offset.toNat)) := rfl
  rw [hword, ← littleEndian_two, Nat.add_comm 1, Nat.add_comm 0, h1, h0,
    ← littleEndian_toBytes]
  rfl

theorem returnedWord32_of_holds {v : ℕ}
    (h : Holds s.returnBuffer offset.toNat (toBytes 4 v)) :
    (returnedWord32 s offset).val.toNat = v % 256 ^ 4 := by
  have hlength := length_toBytes 4 v
  have h3 : s.returnBuffer (offset.toNat + 3) = BitVec.ofNat 8 (v / 256 / 256 / 256) :=
    h 3 (by omega)
  have h2 : s.returnBuffer (offset.toNat + 2) = BitVec.ofNat 8 (v / 256 / 256) :=
    h 2 (by omega)
  have h1 : s.returnBuffer (offset.toNat + 1) = BitVec.ofNat 8 (v / 256) := h 1 (by omega)
  have h0 : s.returnBuffer (offset.toNat + 0) = BitVec.ofNat 8 v := h 0 (by omega)
  have hword : (returnedWord32 s offset).val =
      word32 (s.returnBuffer (3 + offset.toNat)) (s.returnBuffer (2 + offset.toNat))
        (s.returnBuffer (1 + offset.toNat)) (s.returnBuffer (0 + offset.toNat)) := rfl
  rw [hword, ← littleEndian_four, Nat.add_comm 3, Nat.add_comm 2, Nat.add_comm 1,
    Nat.add_comm 0, h3, h2, h1, h0, ← littleEndian_toBytes]
  rfl

theorem returnedWord32_eq {u : BitVec 32}
    (h : Holds s.returnBuffer offset.toNat (toBytes 4 u.toNat)) :
    (returnedWord32 s offset).val = u := by
  apply BitVec.eq_of_toNat_eq
  rw [returnedWord32_of_holds h]
  exact Nat.mod_eq_of_lt u.isLt

/-- A word of the stored arguments is what the getters of its width read there. -/
theorem returnedWord32_of_wordAt {args : List Byte} {word : ℕ}
    (h : Holds s.returnBuffer 0 args) (hword : wordAt args offset.toNat 4 = some word) :
    (returnedWord32 s offset).val.toNat = word := by
  obtain ⟨piece, hslice, hvalue⟩ := Option.map_eq_some_iff.mp hword
  have hlength : piece.length = 4 := length_of_slice hslice
  have hbytes : toBytes 4 word = piece := by
    rw [← hvalue, ← hlength]
    exact toBytes_littleEndian piece
  have hpiece := holds_of_slice h hslice
  rw [Nat.zero_add, ← hbytes] at hpiece
  rw [returnedWord32_of_holds hpiece, ← littleEndian_toBytes, hbytes, hvalue]

/-- The stream getter takes the bytes that stand at its offset. -/
theorem getReturnStream_of_holds {piece : List Byte} {size : Byte}
    (hsize : size.toNat = piece.length) (h : Holds s.returnBuffer offset.toNat piece)
    (data : Mem) : (cc3000GetReturnStream s data offset size).val = withPrefix piece data := by
  rw [val_cc3000GetReturnStream, hsize]
  funext i
  by_cases hi : i < piece.length
  · rw [overlay_lt _ _ hi, Nat.add_comm, h i hi]
    simp [withPrefix, hi]
  · rw [overlay_ge _ _ (Nat.not_lt.mp hi), withPrefix_ge (Nat.not_lt.mp hi)]

end Getters

inductive Value
  | uint8 (u : Byte)
  | uint16 (u : BitVec 16)
  | uint32 (u : BitVec 32)
  deriving DecidableEq, Repr

namespace Value

def call : Value → SendCall
  | .uint8 u => .uint8 u
  | .uint16 u => .uint16 u
  | .uint32 u => .uint32 u

def size : Value → Byte
  | .uint8 _ => 1
  | .uint16 _ => 2
  | .uint32 _ => 4

/-- The getters of the value's width read it at the offset; the signed one reads it in
two's complement. -/
def ReadAt (s : State) (offset : Byte) : Value → Prop
  | .uint8 u => (cc3000GetReturnUint8 s offset).val = u
  | .uint16 u => (cc3000GetReturnUint16 s offset).val = u
  | .uint32 u =>
      (cc3000GetReturnUint32 s offset).val = u ∧
        (cc3000GetReturnInt32 s offset).val.toInt = Int.bmod u.toNat (2 ^ 32)

theorem length_field (v : Value) : (fieldOf v.call).length = v.size.toNat := by
  cases v <;> rfl

theorem readAt_of_holds {s : State} {offset : Byte} {v : Value}
    (h : Holds s.returnBuffer offset.toNat (fieldOf v.call)) : v.ReadAt s offset := by
  cases v with
  | uint8 u =>
    have hbyte : s.returnBuffer (offset.toNat + 0) = u := h 0 (Nat.one_pos)
    exact (val_cc3000GetReturnUint8 s offset).trans hbyte
  | uint16 u =>
    apply BitVec.eq_of_toNat_eq
    rw [getReturnUint16_of_holds h]
    exact Nat.mod_eq_of_lt u.isLt
  | uint32 u =>
    have hword : (returnedWord32 s offset).val = u := returnedWord32_eq h
    refine ⟨hword, ?_⟩
    rw [cc3000GetReturnInt32, hword, BitVec.toInt_eq_toNat_bmod]

end Value

def encoded (vs : List Value) : List Byte := streamed (vs.map Value.call)

theorem encoded_cons (v : Value) (vs : List Value) :
    encoded (v :: vs) = fieldOf v.call ++ encoded vs := by
  rw [encoded, List.map_cons, streamed_cons, sent_eq_fieldOf, encoded]

/-- Each value is read at the offset that the values before it lead to. -/
def ReadBack (s : State) : Byte → List Value → Prop
  | _, [] => True
  | offset, v :: vs => v.ReadAt s offset ∧ ReadBack s (offset + v.size) vs

theorem readBack_of_holds {s : State} (vs : List Value) (offset : Byte)
    (h : Holds s.returnBuffer offset.toNat (encoded vs))
    (hfits : offset.toNat + (encoded vs).length < 256) : ReadBack s offset vs := by
  induction vs generalizing offset with
  | nil => trivial
  | cons v vs ih =>
    rw [encoded_cons] at h hfits
    rw [List.length_append, v.length_field] at hfits
    -- the sum does not leave the byte that the offset is held in
    have hnext : (offset + v.size).toNat = offset.toNat + v.size.toNat := by
      rw [BitVec.toNat_add]
      omega
    have hrest := h.append_right
    rw [v.length_field, ← hnext] at hrest
    exact ⟨Value.readAt_of_holds h.append_left, ih _ hrest (by omega)⟩

/-- The stream getter gives every slice of the arguments, and writes nothing past it. -/
def StreamsSlices (s : State) (args : List Byte) : Prop :=
  ∀ (offset size : Byte) (buf : Mem), offset.toNat + size.toNat ≤ args.length →
    ∃ piece, slice args offset.toNat size.toNat = some piece ∧
      (cc3000GetReturnStream s buf offset size).val = withPrefix piece buf

theorem streamsSlices_of_holds {s : State} {args : List Byte}
    (h : Holds s.returnBuffer 0 args) : StreamsSlices s args := by
  intro offset size buf hfits
  have hslice : slice args offset.toNat size.toNat =
      some ((args.drop offset.toNat).take size.toNat) := if_pos hfits
  have hlength : size.toNat = ((args.drop offset.toNat).take size.toNat).length := by
    rw [List.length_take, List.length_drop]
    omega
  have hpiece := holds_of_slice h hslice
  rw [Nat.zero_add] at hpiece
  exact ⟨_, hslice, getReturnStream_of_holds hlength hpiece buf⟩

/-- For every list of values that fits the arguments of a frame, every copied event and
every driver state: the values are read back, and so is every slice of their bytes. -/
theorem values_roundTrip (vs : List Value) (op : BitVec 16) (data : Mem) (s : State)
    (hfits : (encoded vs).length ≤ 245) (hop : NormalEvent op)
    (h : Holds data 0 (eventFrame op (encoded vs))) :
    ReadBack (handle data s) 0 vs ∧ StreamsSlices (handle data s) (encoded vs) := by
  have hargs := holds_returnBuffer h (by omega) hop s
  refine ⟨readBack_of_holds vs 0 hargs ?_, streamsSlices_of_holds hargs⟩
  have hzero : (0 : Byte).toNat = 0 := rfl
  omega

/-- A negative word between two shorter values, in the answer to a bind. -/
def mixedValues : List Value := [.uint8 7, .uint32 (-2), .uint16 0x1234]

theorem values_roundTrip_mixed :
    ReadBack (handle (withPrefix (eventFrame hciEvntBind (encoded mixedValues)) fun _ => 0)
        (initial fun _ => 0)) 0 mixedValues ∧
      StreamsSlices
        (handle (withPrefix (eventFrame hciEvntBind (encoded mixedValues)) fun _ => 0)
          (initial fun _ => 0)) (encoded mixedValues) :=
  values_roundTrip mixedValues hciEvntBind _ _ (by decide) (by decide) (holds_withPrefix _ _)

end Cc3000Async.ReturnedValues
