import Cc3000Async.DriverState

/-!
The send side of the SPI and HCI layers. Every function here is a straight-line
program over the elementary actions; the only run-time choice is the padding
byte of the end calls, which depends on the flag the start call stored.
-/
namespace Cc3000Async.HciFrames

open ByteMemory Opcodes DriverState

/-- The padding flag that `cc3000_spi_start_send` returns. -/
def startSendPadding (hciLength : BitVec 16) : Byte :=
  ((cc3000SpiHeaderSize + hciLength) &&& 0x01#16).setWidth 8

/-- The length field that `cc3000_spi_start_send` puts on the wire. -/
def startSendLength (hciLength : BitVec 16) : BitVec 16 :=
  if startSendPadding hciLength ≠ 0#8 then hciLength + 1 else hciLength

def cc3000SpiStartSend (hciLength : BitVec 16) : Prog :=
  [.interruptDisable, .assertCs, .waitIrq false,
    .spiSend spiOperationWrite,
    .spiSend ((startSendLength hciLength >>> 8).setWidth 8),
    .spiSend ((startSendLength hciLength &&& 0xff#16).setWidth 8),
    .spiSend 0, .spiSend 0]

def cc3000SpiFinishSend (paddingByteRequired : Byte) : Prog :=
  (if paddingByteRequired ≠ 0#8 then [.spiSend 0] else []) ++ [.deassertCs, .interruptEnable]

def cc3000HciSendUint32 (u : BitVec 32) : Prog :=
  [.spiSend ((u &&& 0xff#32).setWidth 8),
    .spiSend ((u >>> 8 &&& 0xff#32).setWidth 8),
    .spiSend ((u >>> 16 &&& 0xff#32).setWidth 8),
    .spiSend ((u >>> 24 &&& 0xff#32).setWidth 8)]

def cc3000HciSendUint16 (u : BitVec 16) : Prog :=
  [.spiSend ((u &&& 0xff#16).setWidth 8), .spiSend ((u >>> 8 &&& 0xff#16).setWidth 8)]

def cc3000HciSendUint8 (u : Byte) : Prog := [.spiSend u]

def cc3000HciSendStream (u : Mem) (size : Byte) : Prog :=
  (List.range size.toNat).map fun count => .spiSend (u count)

/-- One call of the streaming interface. -/
inductive SendCall
  | uint8 (u : Byte)
  | uint16 (u : BitVec 16)
  | uint32 (u : BitVec 32)
  | stream (u : Mem) (size : Byte)

def SendCall.prog : SendCall → Prog
  | .uint8 u => cc3000HciSendUint8 u
  | .uint16 u => cc3000HciSendUint16 u
  | .uint32 u => cc3000HciSendUint32 u
  | .stream u size => cc3000HciSendStream u size

def callsProg (calls : List SendCall) : Prog := calls.flatMap SendCall.prog

def streamed (calls : List SendCall) : List Byte := (callsProg calls).sent

def cc3000HciStartCommand (opcode : BitVec 16) (argsLength : Byte) : Prog :=
  cc3000SpiStartSend (hciCommandHeaderLength + argsLength.setWidth 16) ++
  [.storePadding (startSendPadding (hciCommandHeaderLength + argsLength.setWidth 16)),
    .spiSend hciTypeCommand,
    .spiSend ((opcode &&& 0xff#16).setWidth 8),
    .spiSend ((opcode >>> 8).setWidth 8),
    .spiSend argsLength]

/-- `cc3000_spi_finish_send` on the flag stored by the last start call. -/
def cc3000HciEndCommand : Prog := [.sendPadding, .deassertCs, .interruptEnable]

def cc3000HciSendCommand (opcode : BitVec 16) (argsLength : Byte) (args : Mem) : Prog :=
  cc3000SpiStartSend (hciCommandHeaderLength + argsLength.setWidth 16) ++
  [.spiSend hciTypeCommand,
    .spiSend ((opcode &&& 0xff#16).setWidth 8),
    .spiSend ((opcode >>> 8).setWidth 8),
    .spiSend argsLength] ++
  (if argsLength.toNat > 0 then
    (List.range argsLength.toNat).map fun count => .spiSend (args count)
  else []) ++
  cc3000SpiFinishSend (startSendPadding (hciCommandHeaderLength + argsLength.setWidth 16))

def cc3000HciStartData (opcode argsLength : Byte) (dataLength : BitVec 16) : Prog :=
  let payloadLength := argsLength.setWidth 16 + dataLength
  cc3000SpiStartSend (hciDataHeaderLength + payloadLength) ++
  [.storePadding (startSendPadding (hciDataHeaderLength + payloadLength)),
    .spiSend hciTypeData,
    .spiSend opcode,
    .spiSend argsLength,
    .spiSend ((payloadLength &&& 0xff#16).setWidth 8),
    .spiSend ((payloadLength >>> 8).setWidth 8)]

def cc3000HciEndData : Prog := [.sendPadding, .deassertCs, .interruptEnable]

def cc3000HciSendData (opcode argsLength : Byte) (args : Mem) (dataLength : BitVec 16)
    (data : Mem) : Prog :=
  let payloadLength := argsLength.setWidth 16 + dataLength
  cc3000SpiStartSend (hciDataHeaderLength + payloadLength) ++
  [.spiSend hciTypeData,
    .spiSend opcode,
    .spiSend argsLength,
    .spiSend ((payloadLength &&& 0xff#16).setWidth 8),
    .spiSend ((payloadLength >>> 8).setWidth 8)] ++
  (if argsLength.toNat > 0 then
    (List.range argsLength.toNat).map fun count => .spiSend (args count)
  else []) ++
  (if dataLength.toNat > 0 then
    (List.range dataLength.toNat).map fun count => .spiSend (data count)
  else []) ++
  cc3000SpiFinishSend (startSendPadding (hciDataHeaderLength + payloadLength))

/-- A request that raises the desired state, streams one command frame and arms
the expectation: the command opcode, the argument length given to the start call,
the calls made before the end call, and the opcode expected in return. -/
structure Command where
  opcode : BitVec 16
  argsLength : Byte
  calls : List SendCall
  expected : BitVec 16

def Command.prog (c : Command) : Prog :=
  [.incDesiredState] ++ cc3000HciStartCommand c.opcode c.argsLength ++ callsProg c.calls ++
    cc3000HciEndCommand ++ [.hciExpect c.expected]

theorem SendCall.prog_eq (c : SendCall) : c.prog = c.prog.sent.map .spiSend := by
  cases c with
  | uint8 u => rfl
  | uint16 u => rfl
  | uint32 u => rfl
  | stream u size =>
    have h : SendCall.prog (.stream u size) =
        ((List.range size.toNat).map u).map .spiSend := by
      simp [SendCall.prog, cc3000HciSendStream]
    rw [h, Prog.sent_map_spiSend]

theorem callsProg_eq (calls : List SendCall) :
    callsProg calls = (streamed calls).map .spiSend := by
  induction calls with
  | nil => rfl
  | cons c calls ih =>
    have hsplit : callsProg (c :: calls) = c.prog ++ callsProg calls := rfl
    unfold streamed at ih ⊢
    rw [hsplit, Prog.sent_append, List.map_append, ← ih, ← c.prog_eq]

@[simp] theorem streamed_nil : streamed [] = [] := rfl

theorem streamed_cons (c : SendCall) (calls : List SendCall) :
    streamed (c :: calls) = c.prog.sent ++ streamed calls := by
  have hsplit : callsProg (c :: calls) = c.prog ++ callsProg calls := rfl
  unfold streamed
  rw [hsplit, Prog.sent_append]

def spiHeader (hciLength : BitVec 16) : List Byte :=
  [spiOperationWrite, (startSendLength hciLength >>> 8).setWidth 8,
    (startSendLength hciLength).setWidth 8, 0, 0]

def paddingBytes (paddingByteRequired : Byte) : List Byte :=
  if paddingByteRequired ≠ 0#8 then [0] else []

/-- The length field counts the padding byte, which evens out the frame. The sum that
decides on it wraps at 16 bits, which keeps its parity. -/
theorem startSend_cases (hciLength : BitVec 16) :
    (hciLength.toNat % 2 = 1 ∧ (startSendLength hciLength).toNat = hciLength.toNat ∧
      paddingBytes (startSendPadding hciLength) = []) ∨
    (hciLength.toNat % 2 = 0 ∧ (startSendLength hciLength).toNat = hciLength.toNat + 1 ∧
      paddingBytes (startSendPadding hciLength) = [0]) := by
  have hlt := hciLength.isLt
  have hpad : (startSendPadding hciLength).toNat = (hciLength.toNat + 1) % 2 := by
    have hfive : cc3000SpiHeaderSize.toNat = 5 := rfl
    have hone : (0x01#16).toNat = 1 := rfl
    rw [startSendPadding, BitVec.toNat_setWidth, BitVec.toNat_and, BitVec.toNat_add, hfive,
      hone, Nat.and_one_is_mod]
    omega
  by_cases hzero : startSendPadding hciLength = 0#8
  · have hnil : (0#8).toNat = 0 := rfl
    rw [hzero, hnil] at hpad
    refine Or.inl ⟨by omega, ?_, ?_⟩
    · rw [startSendLength, hzero]
      rfl
    · rw [hzero]
      rfl
  · have hne : (startSendPadding hciLength).toNat ≠ 0 := fun heq =>
      hzero (BitVec.eq_of_toNat_eq heq)
    have hone : (1 : BitVec 16).toNat = 1 := rfl
    refine Or.inr ⟨by omega, ?_, if_pos hzero⟩
    rw [startSendLength, if_pos hzero, BitVec.toNat_add, hone]
    omega

def spiWrite (hciLength : BitVec 16) (hci : List Byte) : List Byte :=
  spiHeader hciLength ++ hci ++ paddingBytes (startSendPadding hciLength)

/-- The bus events of one frame: its bytes inside one bracket of interrupt disable
and chip select. -/
def bracket (bytes : List Byte) : List BusEvent :=
  [.interruptDisable, .assertCs, .waitIrq false] ++ bytes.map .send ++
    [.deassertCs, .interruptEnable]

def commandBytes (opcode : BitVec 16) (argsLength : Byte) (args : List Byte) : List Byte :=
  spiWrite (hciCommandHeaderLength + argsLength.setWidth 16)
    ([hciTypeCommand, opcode.setWidth 8, (opcode >>> 8).setWidth 8, argsLength] ++ args)

def dataBytes (opcode argsLength : Byte) (dataLength : BitVec 16) (payload : List Byte) :
    List Byte :=
  let payloadLength := argsLength.setWidth 16 + dataLength
  spiWrite (hciDataHeaderLength + payloadLength)
    ([hciTypeData, opcode, argsLength, payloadLength.setWidth 8,
      (payloadLength >>> 8).setWidth 8] ++ payload)

theorem exec_cc3000SpiStartSend (hciLength : BitVec 16) (s : State) :
    (cc3000SpiStartSend hciLength).exec s =
      { s with
        interruptsEnabled := false
        bus := s.bus ++ [.interruptDisable, .assertCs, .waitIrq false] ++
          (spiHeader hciLength).map .send } := by
  simp [cc3000SpiStartSend, Action.exec, State.onBus, spiHeader,
    setWidth_and_mask (startSendLength hciLength) (by omega)]

theorem exec_cc3000SpiFinishSend (paddingByteRequired : Byte) (s : State) :
    (cc3000SpiFinishSend paddingByteRequired).exec s =
      { s with
        interruptsEnabled := true
        bus := s.bus ++ (paddingBytes paddingByteRequired).map .send ++
          [.deassertCs, .interruptEnable] } := by
  unfold cc3000SpiFinishSend paddingBytes
  split <;> simp [Action.exec, State.onBus]

theorem exec_cc3000HciEndCommand (s : State) :
    cc3000HciEndCommand.exec s = (cc3000SpiFinishSend s.paddingByteRequired).exec s := by
  rw [exec_cc3000SpiFinishSend]
  unfold cc3000HciEndCommand paddingBytes
  by_cases hpad : s.paddingByteRequired = 0#8 <;>
    simp [Action.exec, State.onBus, hpad]

theorem cc3000HciEndData_eq : cc3000HciEndData = cc3000HciEndCommand := rfl

/-- The streaming path of a command: one bracketed frame, and the flag stored. -/
theorem exec_streamCommand (opcode : BitVec 16) (argsLength : Byte) (calls : List SendCall)
    (s : State) :
    (cc3000HciStartCommand opcode argsLength ++ callsProg calls ++ cc3000HciEndCommand).exec s =
      { s with
        paddingByteRequired :=
          startSendPadding (hciCommandHeaderLength + argsLength.setWidth 16)
        interruptsEnabled := true
        bus := s.bus ++ bracket (commandBytes opcode argsLength (streamed calls)) } := by
  rw [Prog.exec_append, Prog.exec_append, cc3000HciStartCommand, Prog.exec_append,
    exec_cc3000SpiStartSend, callsProg_eq, Prog.exec_map_spiSend, exec_cc3000HciEndCommand,
    exec_cc3000SpiFinishSend]
  simp [Action.exec, State.onBus, bracket, commandBytes, spiWrite,
    setWidth_and_mask opcode (by omega)]

/-- A counting loop over a pointer sends the bytes it walks over; the guard that
skips an empty loop changes nothing. -/
theorem sendLoop_eq (n : ℕ) (m : Mem) :
    (if n > 0 then (List.range n).map fun count => Action.spiSend (m count) else []) =
      ((List.range n).map m).map .spiSend := by
  cases n with
  | zero => rfl
  | succ n => simp

/-- The whole-frame path of a command sends the same events and stores no flag. -/
theorem exec_cc3000HciSendCommand (opcode : BitVec 16) (argsLength : Byte) (args : Mem)
    (s : State) :
    (cc3000HciSendCommand opcode argsLength args).exec s =
      { s with
        interruptsEnabled := true
        bus := s.bus ++
          bracket (commandBytes opcode argsLength ((List.range argsLength.toNat).map args)) } := by
  rw [cc3000HciSendCommand, sendLoop_eq, Prog.exec_append, Prog.exec_append, Prog.exec_append,
    exec_cc3000SpiStartSend, Prog.exec_map_spiSend, exec_cc3000SpiFinishSend]
  simp [Action.exec, State.onBus, bracket, commandBytes, spiWrite,
    setWidth_and_mask opcode (by omega)]

theorem exec_streamData (opcode argsLength : Byte) (dataLength : BitVec 16)
    (calls : List SendCall) (s : State) :
    (cc3000HciStartData opcode argsLength dataLength ++ callsProg calls ++
        cc3000HciEndData).exec s =
      { s with
        paddingByteRequired :=
          startSendPadding (hciDataHeaderLength + (argsLength.setWidth 16 + dataLength))
        interruptsEnabled := true
        bus := s.bus ++ bracket (dataBytes opcode argsLength dataLength (streamed calls)) } := by
  rw [Prog.exec_append, Prog.exec_append, cc3000HciStartData, Prog.exec_append,
    exec_cc3000SpiStartSend, callsProg_eq, Prog.exec_map_spiSend, cc3000HciEndData_eq,
    exec_cc3000HciEndCommand, exec_cc3000SpiFinishSend]
  simp [Action.exec, State.onBus, bracket, dataBytes, spiWrite,
    setWidth_and_mask (argsLength.setWidth 16 + dataLength) (by omega)]

theorem exec_cc3000HciSendData (opcode argsLength : Byte) (args : Mem)
    (dataLength : BitVec 16) (data : Mem) (s : State) :
    (cc3000HciSendData opcode argsLength args dataLength data).exec s =
      { s with
        interruptsEnabled := true
        bus := s.bus ++ bracket (dataBytes opcode argsLength dataLength
          ((List.range argsLength.toNat).map args ++
            (List.range dataLength.toNat).map data)) } := by
  rw [cc3000HciSendData, sendLoop_eq, sendLoop_eq, Prog.exec_append, Prog.exec_append,
    Prog.exec_append, Prog.exec_append, exec_cc3000SpiStartSend, Prog.exec_map_spiSend,
    Prog.exec_map_spiSend, exec_cc3000SpiFinishSend]
  simp [Action.exec, State.onBus, bracket, dataBytes, spiWrite,
    setWidth_and_mask (argsLength.setWidth 16 + dataLength) (by omega)]

/-- A command request changes the counter, the expectation, the padding flag and
the bus, and nothing else. -/
theorem Command.exec_prog (c : Command) (s : State) :
    c.prog.exec s =
      { s with
        desiredState := s.desiredState + 1
        expect := c.expected
        paddingByteRequired :=
          startSendPadding (hciCommandHeaderLength + c.argsLength.setWidth 16)
        interruptsEnabled := true
        bus := s.bus ++
          bracket (commandBytes c.opcode c.argsLength (streamed c.calls)) } := by
  have hassoc : c.prog =
      .incDesiredState ::
        ((cc3000HciStartCommand c.opcode c.argsLength ++ callsProg c.calls ++
          cc3000HciEndCommand) ++ [.hciExpect c.expected]) := by
    simp [Command.prog]
  rw [hassoc, Prog.exec_cons, Prog.exec_append, exec_streamCommand]
  rfl

end Cc3000Async.HciFrames
