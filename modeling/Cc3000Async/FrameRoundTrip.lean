import Cc3000Async.HciFrames
import Cc3000Async.SelfDelimiting

/-!
Sends and their receiver. A message can be sent whole or streamed call by call;
both emit the frame of the message and nothing else, and a receiver that knows only
the length fields reads every run of sends back.
-/
namespace Cc3000Async.FrameRoundTrip

open ByteMemory SelfDelimiting Opcodes DriverState HciFrames

inductive Message
  | command (opcode : BitVec 16) (args : List Byte)
  | data (opcode : Byte) (args payload : List Byte)
  deriving DecidableEq, Repr

def Message.Fits : Message → Prop
  | .command _ args => args.length ≤ 255
  | .data _ args payload => args.length ≤ 255 ∧ 5 + args.length + payload.length ≤ 65535

/-- The four ways to send a frame. The streaming ways carry the calls made between the
start and the end, which stream what the start call declared. -/
inductive Send
  | sendCommand (opcode : BitVec 16) (argsLength : Byte) (args : Mem)
  | streamCommand (opcode : BitVec 16) (argsLength : Byte) (calls : List SendCall)
      (exact : (streamed calls).length = argsLength.toNat)
  | sendData (opcode argsLength : Byte) (args : Mem) (dataLength : BitVec 16) (data : Mem)
      (fits : 5 + argsLength.toNat + dataLength.toNat ≤ 65535)
  | streamData (opcode argsLength : Byte) (dataLength : BitVec 16) (calls : List SendCall)
      (fits : 5 + argsLength.toNat + dataLength.toNat ≤ 65535)
      (exact : (streamed calls).length = argsLength.toNat + dataLength.toNat)

namespace Send

def prog : Send → Prog
  | sendCommand opcode argsLength args => cc3000HciSendCommand opcode argsLength args
  | streamCommand opcode argsLength calls _ =>
      cc3000HciStartCommand opcode argsLength ++ callsProg calls ++ cc3000HciEndCommand
  | sendData opcode argsLength args dataLength data _ =>
      cc3000HciSendData opcode argsLength args dataLength data
  | streamData opcode argsLength dataLength calls _ _ =>
      cc3000HciStartData opcode argsLength dataLength ++ callsProg calls ++ cc3000HciEndData

def message : Send → Message
  | sendCommand opcode argsLength args =>
      .command opcode ((List.range argsLength.toNat).map args)
  | streamCommand opcode _ calls _ => .command opcode (streamed calls)
  | sendData opcode argsLength args dataLength data _ =>
      .data opcode ((List.range argsLength.toNat).map args)
        ((List.range dataLength.toNat).map data)
  | streamData opcode argsLength _ calls _ _ =>
      .data opcode ((streamed calls).take argsLength.toNat)
        ((streamed calls).drop argsLength.toNat)

end Send

def hciBytes : Message → List Byte
  | .command opcode args =>
      [hciTypeCommand, opcode.setWidth 8, (opcode >>> 8).setWidth 8,
        BitVec.ofNat 8 args.length] ++ args
  | .data opcode args payload =>
      [hciTypeData, opcode, BitVec.ofNat 8 args.length,
        BitVec.ofNat 8 (args.length + payload.length),
        BitVec.ofNat 8 ((args.length + payload.length) / 256)] ++ (args ++ payload)

def frameBytes (m : Message) : List Byte :=
  spiWrite (BitVec.ofNat 16 (hciBytes m).length) (hciBytes m)

/-- The shape of a frame around its packet: the write operation, the length of what
follows the busy bytes, big-endian, the packet, and at most one padding byte that makes
the number of bytes even. -/
structure WellFramed (hci bytes : List Byte) : Prop where
  shape : ∃ msb lsb padding, bytes = [spiOperationWrite, msb, lsb, 0, 0] ++ (hci ++ padding) ∧
    (padding = [] ∨ padding = [0]) ∧
    (hci ++ padding).length = 256 * msb.toNat + lsb.toNat
  even : bytes.length % 2 = 0

/-- Read a packet, ignoring what follows it in its frame. -/
def readHci : List Byte → Option Message
  | type :: b1 :: b2 :: b3 :: body =>
      if type = hciTypeCommand then
        if b3.toNat ≤ body.length then
          some (.command (word16 b2 b1) (body.take b3.toNat))
        else none
      else if type = hciTypeData then
        match body with
        | [] => none
        | b4 :: body =>
            let length := (word16 b4 b3).toNat
            if b2.toNat ≤ length ∧ length ≤ body.length then
              some (.data b1 (body.take b2.toNat) ((body.take length).drop b2.toNat))
            else none
      else none
  | _ => none

def readFrame : List Byte → Option (Message × List Byte)
  | op :: msb :: lsb :: _ :: _ :: rest =>
      let length := (word16 msb lsb).toNat
      if op = spiOperationWrite ∧ length ≤ rest.length then
        (readHci (rest.take length)).map fun m => (m, rest.drop length)
      else none
  | _ => none

theorem hciBytes_length (m : Message) (h : m.Fits) : (hciBytes m).length ≤ 65535 := by
  cases m with
  | command opcode args =>
    have hargs : args.length ≤ 255 := h
    simp only [hciBytes, List.length_append, List.length_cons, List.length_nil]
    omega
  | data opcode args payload =>
    have hfits : 5 + args.length + payload.length ≤ 65535 := h.2
    simp only [hciBytes, List.length_append, List.length_cons, List.length_nil]
    omega

/-- The padding makes an even number of bytes, and the length field counts it. -/
theorem wellFramed_spiWrite (hci : List Byte) (h : hci.length ≤ 65535) :
    WellFramed hci (spiWrite (BitVec.ofNat 16 hci.length) hci) := by
  have hshape : spiWrite (BitVec.ofNat 16 hci.length) hci =
      [spiOperationWrite, (startSendLength (BitVec.ofNat 16 hci.length) >>> 8).setWidth 8,
        (startSendLength (BitVec.ofNat 16 hci.length)).setWidth 8, 0, 0] ++
          (hci ++ paddingBytes (startSendPadding (BitVec.ofNat 16 hci.length))) := by
    rw [spiWrite, List.append_assoc]
    rfl
  have hlength : (BitVec.ofNat 16 hci.length).toNat = hci.length := by
    rw [BitVec.toNat_ofNat]
    omega
  have hsum := congrArg BitVec.toNat
    (word16_split (startSendLength (BitVec.ofNat 16 hci.length)))
  rw [toNat_word16] at hsum
  obtain ⟨hodd, hlen, hpad⟩ | ⟨heven, hlen, hpad⟩ :=
    startSend_cases (BitVec.ofNat 16 hci.length)
  · rw [hlength] at hodd hlen
    rw [hlen] at hsum
    rw [hshape, hpad]
    refine ⟨⟨_, _, [], rfl, Or.inl rfl, ?_⟩, ?_⟩
    · rw [List.append_nil]
      omega
    · simp only [List.length_append, List.length_cons, List.length_nil]
      omega
  · rw [hlength] at heven hlen
    rw [hlen] at hsum
    rw [hshape, hpad]
    refine ⟨⟨_, _, [0], rfl, Or.inr rfl, ?_⟩, ?_⟩
    · rw [List.length_append, List.length_singleton]
      omega
    · simp only [List.length_append, List.length_cons, List.length_nil]
      omega

theorem toNat_ofNat_byte (n : ℕ) (hn : n ≤ 255) : (BitVec.ofNat 8 n).toNat = n := by
  rw [BitVec.toNat_ofNat]
  omega

theorem readHci_hciBytes (m : Message) (h : m.Fits) (padding : List Byte) :
    readHci (hciBytes m ++ padding) = some m := by
  cases m with
  | command opcode args =>
    have hargs := toNat_ofNat_byte args.length h
    have hle : args.length ≤ (args ++ padding).length := by
      rw [List.length_append]
      omega
    change readHci (hciTypeCommand :: opcode.setWidth 8 :: (opcode >>> 8).setWidth 8 ::
      BitVec.ofNat 8 args.length :: (args ++ padding)) = _
    simp only [readHci, if_true, hargs, if_pos hle, word16_split, List.take_left' rfl]
  | data opcode args payload =>
    obtain ⟨hshort, hfits⟩ := h
    have hargs := toNat_ofNat_byte args.length hshort
    have hlength : (word16 (BitVec.ofNat 8 ((args.length + payload.length) / 256))
        (BitVec.ofNat 8 (args.length + payload.length))).toNat =
          args.length + payload.length := by
      rw [toNat_word16, BitVec.toNat_ofNat, BitVec.toNat_ofNat]
      omega
    have hne : hciTypeData ≠ hciTypeCommand := by decide
    have hle : args.length ≤ args.length + payload.length ∧
        args.length + payload.length ≤ (args ++ payload ++ padding).length := by
      simp only [List.length_append]
      omega
    have htake : (args ++ payload ++ padding).take (args.length + payload.length) =
        args ++ payload := by
      rw [← List.length_append, List.take_left']
      rfl
    change readHci (hciTypeData :: opcode :: BitVec.ofNat 8 args.length ::
      BitVec.ofNat 8 (args.length + payload.length) ::
      BitVec.ofNat 8 ((args.length + payload.length) / 256) ::
      (args ++ payload ++ padding)) = _
    simp only [readHci, if_neg hne, if_true, hargs, hlength, if_pos hle, htake,
      List.drop_left' rfl]
    rw [List.append_assoc, List.take_left' rfl]

theorem readFrame_of_wellFramed {hci bytes : List Byte} (h : WellFramed hci bytes)
    (m : Message) (hread : ∀ padding, readHci (hci ++ padding) = some m) (rest : List Byte) :
    readFrame (bytes ++ rest) = some (m, rest) := by
  obtain ⟨msb, lsb, padding, hbytes, -, hlength⟩ := h.shape
  have hlen : (word16 msb lsb).toNat = (hci ++ padding).length := by
    rw [toNat_word16, hlength]
  have hle : (hci ++ padding).length ≤ (hci ++ padding ++ rest).length := by
    simp only [List.length_append]
    omega
  rw [hbytes]
  change readFrame (spiOperationWrite :: msb :: lsb :: 0 :: 0 :: (hci ++ padding ++ rest)) = _
  simp only [readFrame, hlen, true_and, if_pos hle, List.take_left' rfl, List.drop_left' rfl,
    hread, Option.map_some]

theorem delimits_frame : Delimits frameBytes readFrame Message.Fits := by
  constructor
  · intro m hm
    obtain ⟨msb, lsb, padding, hbytes, -, -⟩ :=
      (wellFramed_spiWrite (hciBytes m) (hciBytes_length m hm)).shape
    rw [frameBytes, hbytes]
    exact List.cons_ne_nil _ _
  · intro m hm rest
    exact readFrame_of_wellFramed (wellFramed_spiWrite (hciBytes m) (hciBytes_length m hm)) m
      (readHci_hciBytes m hm) rest

theorem length_range_map (n : ℕ) (m : Mem) : ((List.range n).map m).length = n := by
  rw [List.length_map, List.length_range]

theorem commandBytes_eq (opcode : BitVec 16) (argsLength : Byte) (args : List Byte)
    (h : args.length = argsLength.toNat) :
    commandBytes opcode argsLength args = frameBytes (.command opcode args) := by
  have hlength : hciCommandHeaderLength + argsLength.setWidth 16 =
      BitVec.ofNat 16 (hciBytes (.command opcode args)).length := by
    apply BitVec.eq_of_toNat_eq
    have hlt := argsLength.isLt
    have hfour : hciCommandHeaderLength.toNat = 4 := rfl
    rw [BitVec.toNat_add, BitVec.toNat_setWidth, BitVec.toNat_ofNat, hfour]
    simp only [hciBytes, List.length_append, List.length_cons, List.length_nil, h]
    omega
  have hbyte : BitVec.ofNat 8 args.length = argsLength := by
    rw [h, BitVec.ofNat_toNat, BitVec.setWidth_eq]
  rw [commandBytes, frameBytes, hlength]
  simp only [hciBytes, hbyte]

/-- The data frame of the send side is the frame of the message it carries, as long as
its payload length does not wrap. -/
theorem dataBytes_eq (opcode argsLength : Byte) (dataLength : BitVec 16)
    (args payload : List Byte) (hargs : args.length = argsLength.toNat)
    (hpayload : payload.length = dataLength.toNat)
    (hfits : 5 + argsLength.toNat + dataLength.toNat ≤ 65535) :
    dataBytes opcode argsLength dataLength (args ++ payload) =
      frameBytes (.data opcode args payload) := by
  have hlt := argsLength.isLt
  have hsum : (argsLength.setWidth 16 + dataLength).toNat = args.length + payload.length := by
    rw [BitVec.toNat_add, BitVec.toNat_setWidth, hargs, hpayload]
    omega
  have hlength : hciDataHeaderLength + (argsLength.setWidth 16 + dataLength) =
      BitVec.ofNat 16 (hciBytes (.data opcode args payload)).length := by
    apply BitVec.eq_of_toNat_eq
    have hfive : hciDataHeaderLength.toNat = 5 := rfl
    rw [BitVec.toNat_add, hsum, BitVec.toNat_ofNat, hfive]
    simp only [hciBytes, List.length_append, List.length_cons, List.length_nil]
  have hbyte : BitVec.ofNat 8 args.length = argsLength := by
    rw [hargs, BitVec.ofNat_toNat, BitVec.setWidth_eq]
  have hlow : (argsLength.setWidth 16 + dataLength).setWidth 8 =
      BitVec.ofNat 8 (args.length + payload.length) := by
    apply BitVec.eq_of_toNat_eq
    rw [BitVec.toNat_setWidth, hsum, BitVec.toNat_ofNat]
  have hhigh : ((argsLength.setWidth 16 + dataLength) >>> 8).setWidth 8 =
      BitVec.ofNat 8 ((args.length + payload.length) / 256) := by
    apply BitVec.eq_of_toNat_eq
    rw [BitVec.toNat_setWidth, BitVec.toNat_ushiftRight, hsum, BitVec.toNat_ofNat,
      Nat.shiftRight_eq_div_pow]
  rw [dataBytes, frameBytes, hlength]
  simp only [hciBytes, hbyte, hlow, hhigh]

namespace Send

theorem message_fits (x : Send) : x.message.Fits := by
  cases x with
  | sendCommand opcode argsLength args =>
    have hlt := argsLength.isLt
    change ((List.range argsLength.toNat).map args).length ≤ 255
    rw [length_range_map]
    omega
  | streamCommand opcode argsLength calls exact =>
    have hlt := argsLength.isLt
    change (streamed calls).length ≤ 255
    omega
  | sendData opcode argsLength args dataLength data fits =>
    have hlt := argsLength.isLt
    constructor
    · rw [length_range_map]
      omega
    · rw [length_range_map, length_range_map]
      exact fits
  | streamData opcode argsLength dataLength calls fits exact =>
    have hlt := argsLength.isLt
    constructor
    · rw [List.length_take]
      omega
    · rw [List.length_take, List.length_drop]
      omega

/-- Whichever way a message is sent, the bus sees its frame in one bracket. -/
theorem bus_exec (x : Send) (s : State) :
    (x.prog.exec s).bus = s.bus ++ bracket (frameBytes x.message) := by
  cases x with
  | sendCommand opcode argsLength args =>
    simp only [prog, message, exec_cc3000HciSendCommand]
    rw [commandBytes_eq opcode argsLength _ (length_range_map _ args)]
  | streamCommand opcode argsLength calls exact =>
    simp only [prog, message, exec_streamCommand]
    rw [commandBytes_eq opcode argsLength _ exact]
  | sendData opcode argsLength args dataLength data fits =>
    simp only [prog, message, exec_cc3000HciSendData]
    rw [dataBytes_eq opcode argsLength dataLength _ _ (length_range_map _ args)
      (length_range_map _ data) fits]
  | streamData opcode argsLength dataLength calls fits exact =>
    have hargs : ((streamed calls).take argsLength.toNat).length = argsLength.toNat := by
      rw [List.length_take]
      omega
    have hdata : ((streamed calls).drop argsLength.toNat).length = dataLength.toNat := by
      rw [List.length_drop]
      omega
    have hbytes := dataBytes_eq opcode argsLength dataLength _ _ hargs hdata fits
    rw [List.take_append_drop] at hbytes
    simp only [prog, message, exec_streamData]
    rw [hbytes]

end Send

def runProg (sends : List Send) : Prog := sends.flatMap Send.prog

def runEvents (sends : List Send) : List BusEvent :=
  sends.flatMap fun x => bracket (frameBytes x.message)

theorem bus_exec_run (sends : List Send) (s : State) :
    ((runProg sends).exec s).bus = s.bus ++ runEvents sends := by
  induction sends generalizing s with
  | nil => simp [runEvents, runProg]
  | cons x sends ih =>
    have hsplit : runProg (x :: sends) = x.prog ++ runProg sends := rfl
    rw [hsplit, Prog.exec_append, ih, x.bus_exec, List.append_assoc]
    rfl

theorem bytesOut_bracket (bytes : List Byte) : bytesOut (bracket bytes) = bytes := by
  rw [bracket, bytesOut_append, bytesOut_append, bytesOut_map_send]
  exact List.append_nil bytes

theorem bytesOut_runEvents (sends : List Send) :
    bytesOut (runEvents sends) = (sends.map Send.message).flatMap frameBytes := by
  induction sends with
  | nil => rfl
  | cons x sends ih =>
    have hsplit : runEvents (x :: sends) =
        bracket (frameBytes x.message) ++ runEvents sends := rfl
    rw [hsplit, bytesOut_append, bytesOut_bracket, ih]
    rfl

/-- For every run of sends from every state. Sends of one message emit the same events
whichever way they are made; each emits a well-formed frame inside one bracket; and the
receiver reads the whole byte stream back as the messages sent, in order. -/
theorem framing_roundTrip (sends : List Send) (s : State) :
    (∀ x y : Send, x.message = y.message → (x.prog.exec s).bus = (y.prog.exec s).bus) ∧
    (∀ x : Send, (x.prog.exec s).bus = s.bus ++ bracket (frameBytes x.message) ∧
      WellFramed (hciBytes x.message) (frameBytes x.message)) ∧
    ((runProg sends).exec s).bus = s.bus ++ runEvents sends ∧
    decodeAll readFrame (bytesOut (runEvents sends)) = some (sends.map Send.message) := by
  refine ⟨?_, ?_, bus_exec_run sends s, ?_⟩
  · intro x y hsame
    rw [x.bus_exec, y.bus_exec, hsame]
  · intro x
    exact ⟨x.bus_exec s,
      wellFramed_spiWrite _ (hciBytes_length x.message x.message_fits)⟩
  · rw [bytesOut_runEvents]
    apply decodeAll_flatMap delimits_frame
    intro m hm
    obtain ⟨x, -, rfl⟩ := List.mem_map.mp hm
    exact x.message_fits

end Cc3000Async.FrameRoundTrip
