import Cc3000Async.EventHandler

/-!
The frames the device sends, as the bytes it lays out, and what the handler reads
off a memory that holds one of them. Lengths are little-endian; a data frame counts
its arguments into the length it declares.
-/
namespace Cc3000Async.DeviceFrames

open ByteMemory Opcodes DriverState EventHandler

def eventFrame (op : BitVec 16) (args : List Byte) : List Byte :=
  [hciTypeEvent, op.setWidth 8, (op >>> 8).setWidth 8,
    BitVec.ofNat 8 args.length, BitVec.ofNat 8 (args.length / 256)] ++ args

def dataFrame (op : Byte) (args payload : List Byte) : List Byte :=
  [hciTypeData, op, BitVec.ofNat 8 args.length,
    BitVec.ofNat 8 (args.length + payload.length),
    BitVec.ofNat 8 ((args.length + payload.length) / 256)] ++ (args ++ payload)

section Event

variable {op : BitVec 16} {args : List Byte} {data : Mem}

theorem event_header (h : Holds data 0 (eventFrame op args)) :
    data 0 = hciTypeEvent ∧ word16 (data 2) (data 1) = op ∧
      data 3 = BitVec.ofNat 8 args.length := by
  have hlen : 5 ≤ (eventFrame op args).length := by simp [eventFrame]
  have h0 := h.at_zero 0 (by omega)
  have h1 := h.at_zero 1 (by omega)
  have h2 := h.at_zero 2 (by omega)
  have h3 := h.at_zero 3 (by omega)
  refine ⟨h0, ?_, h3⟩
  rw [h1, h2]
  exact word16_split op

theorem event_args (h : Holds data 0 (eventFrame op args)) : Holds data 5 args := by
  have hargs := h.append_right
  simpa using hargs

theorem frameOpcode_event (h : Holds data 0 (eventFrame op args)) :
    frameOpcode data = some op := by
  obtain ⟨htype, hop, -⟩ := event_header h
  simp [frameOpcode, htype, hop]

/-- The arguments of an event reach the return buffer exactly when the opcode is one
that the copying switch is reached with. -/
theorem copyReturn_event (h : Holds data 0 (eventFrame op args)) (hlen : args.length < 256)
    (buffer : Mem) :
    copyReturn data buffer =
      if NormalEvent op then overlay (fun i => data (i + 5)) args.length buffer
      else buffer := by
  obtain ⟨htype, hop, hlsb⟩ := event_header h
  have hsize : (data 3).toNat = args.length := by
    rw [hlsb, BitVec.toNat_ofNat]
    omega
  rw [copyReturn_of_event data buffer htype, hop, hsize]

end Event

section Data

variable {op : Byte} {args payload : List Byte} {data : Mem}

theorem data_header (h : Holds data 0 (dataFrame op args payload)) :
    data 0 = hciTypeData ∧ data 1 = op ∧ data 2 = BitVec.ofNat 8 args.length ∧
      data 3 = BitVec.ofNat 8 (args.length + payload.length) := by
  have hlen : 5 ≤ (dataFrame op args payload).length := by simp [dataFrame]
  exact ⟨h.at_zero 0 (by omega), h.at_zero 1 (by omega), h.at_zero 2 (by omega),
    h.at_zero 3 (by omega)⟩

theorem data_body (h : Holds data 0 (dataFrame op args payload)) :
    Holds data 5 args ∧ Holds data (5 + args.length) payload := by
  have hbody := h.append_right
  exact ⟨hbody.append_left, hbody.append_right⟩

theorem frameOpcode_data (h : Holds data 0 (dataFrame op args payload)) :
    frameOpcode data = some (op.setWidth 16) := by
  obtain ⟨htype, hop, -⟩ := data_header h
  have hne : hciTypeData ≠ hciTypeEvent := by decide
  simp [frameOpcode, htype, hop, hne]

/-- A received data frame is copied from its argument size on, two bytes after the
opcode's frame type, and its arguments are counted twice into the size, of which a byte
is kept. -/
theorem copyReturn_dataFrame (h : Holds data 0 (dataFrame op args payload))
    (hop : op.setWidth 16 = hciDataRecv) (buffer : Mem) :
    copyReturn data buffer =
      overlay (fun i => data (i + 2)) ((2 * args.length + payload.length) % 256) buffer := by
  obtain ⟨htype, hbyte, hargs, hlength⟩ := data_header h
  have hsize : (data 3 + data 2).toNat = (2 * args.length + payload.length) % 256 := by
    rw [hlength, hargs, BitVec.toNat_add, BitVec.toNat_ofNat, BitVec.toNat_ofNat]
    omega
  rw [copyReturn_of_data data buffer htype, hbyte, if_pos hop, hsize]

theorem copyReturn_data (h : Holds data 0 (dataFrame op args payload))
    (hop : op.setWidth 16 = hciDataRecv) (hfits : 2 * args.length + payload.length < 256)
    (buffer : Mem) :
    copyReturn data buffer =
      overlay (fun i => data (i + 2)) (2 * args.length + payload.length) buffer := by
  rw [copyReturn_dataFrame h hop, Nat.mod_eq_of_lt hfits]

end Data

end Cc3000Async.DeviceFrames
