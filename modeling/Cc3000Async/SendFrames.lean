import Cc3000Async.ArgumentBlocks

/-!
The frame of a send. Its two length fields are computed in sixteen bits from the length
of the caller's buffer; read back from the bytes on the bus, they are right as long as
the sum with the headers still fits.
-/
namespace Cc3000Async.SendFrames

open ByteMemory ByteBlocks Opcodes DriverState HciFrames SocketOperations ArgumentBlocks

/-- The bytes of a frame that carries a buffer to a socket: after the SPI header, whose
length field is big-endian, the HCI data header, four argument words and the data. -/
structure CarriesBuffer (frame : List Byte) (sd : Byte) (buf : Mem) (len : BitVec 16)
    (flags : Byte) : Prop where
  operation : slice frame 0 1 = some [spiOperationWrite]
  spiLength : ∃ msb lsb, slice frame 1 2 = some [msb, lsb] ∧
    5 + (word16 msb lsb).toNat = frame.length
  header : slice frame 5 3 = some [hciTypeData, hciCmndSend.setWidth 8, 16]
  payloadLength : wordAt frame 8 2 = some (16 + len.toNat)
  socket : wordAt frame 10 4 = some sd.toNat
  argument : wordAt frame 14 4 = some 12
  length : wordAt frame 18 4 = some len.toNat
  flags : wordAt frame 22 4 = some flags.toNat
  data : slice frame 26 len.toNat = some (bytesFrom buf len.toNat)

/-- The buffer is on its way: one frame carries it, one free buffer is spent, and the
request counters and the expectation are as they were. -/
structure Sent (s : State) (sd : Byte) (buf : Mem) (len : BitVec 16) (flags : Byte)
    (result : BitVec 8 × State) : Prop where
  value : result.1 = 1
  freeBuffers : result.2.freeBuffers = s.freeBuffers - 1
  desiredState : result.2.desiredState = s.desiredState
  currentState : result.2.currentState = s.currentState
  expect : result.2.expect = s.expect
  bus : ∃ frame, result.2.bus = s.bus ++ bracket frame ∧ CarriesBuffer frame sd buf len flags

structure SendContract (s : State) (sd : Byte) (buf : Mem) (len : BitVec 16) (flags : Byte) :
    Prop where
  refused : s.freeBuffers = 0#8 → cc3000Send sd buf len flags s = (-2, s)
  accepted : s.freeBuffers ≠ 0#8 → Sent s sd buf len flags (cc3000Send sd buf len flags s)

def sendLength (len : BitVec 16) : BitVec 16 := hciDataHeaderLength + (16 + len)

def sendFields (sd : Byte) (buf : Mem) (len : BitVec 16) (flags : Byte) : List (List Byte) :=
  [[spiOperationWrite],
    [(startSendLength (sendLength len) >>> 8).setWidth 8,
      (startSendLength (sendLength len)).setWidth 8],
    [0, 0], [hciTypeData, hciCmndSend.setWidth 8, 16], toBytes 2 (16 + len).toNat,
    toBytes 4 sd.toNat, toBytes 4 12, toBytes 4 len.toNat, toBytes 4 flags.toNat,
    bytesFrom buf len.toNat, paddingBytes (startSendPadding (sendLength len))]

theorem bytesOut_bracket (bytes : List Byte) : bytesOut (bracket bytes) = bytes := by
  unfold bracket
  rw [bytesOut_append, bytesOut_append, bytesOut_map_send]
  simp [bytesOut]

def sendCalls (sd : Byte) (buf : Mem) (len : BitVec 16) (flags : Byte) : List SendCall :=
  [.uint32 (sd.setWidth 32), .uint32 (16 - 4), .uint32 (len.setWidth 32),
    .uint32 (flags.setWidth 32)] ++ (if len.toNat > 0 then sendEach buf len.toNat else [])

theorem streamed_sendCalls (sd : Byte) (buf : Mem) (len : BitVec 16) (flags : Byte) :
    streamed (sendCalls sd buf len flags) =
      [toBytes 4 sd.toNat, toBytes 4 12, toBytes 4 len.toNat, toBytes 4 flags.toNat,
        bytesFrom buf len.toNat].flatten := by
  have hword : (len.setWidth 32).toNat = len.toNat := BitVec.toNat_setWidth_of_le (by omega)
  have hskip : ¬ len.toNat > 0 → len.toNat = 0 := by omega
  rw [streamed_eq_flatten]
  simp only [sendCalls, List.map_append, List.flatten_append, flatten_guarded _ _ hskip,
    List.map_cons, List.map_nil, fieldOf, toNat_widen, hword, List.flatten_cons, List.flatten_nil,
    List.append_assoc, List.append_nil]
  rfl

theorem dataBytes_send (sd : Byte) (buf : Mem) (len : BitVec 16) (flags : Byte) :
    dataBytes (hciCmndSend.setWidth 8) 16 len (streamed (sendCalls sd buf len flags)) =
      (sendFields sd buf len flags).flatten := by
  have hsixteen : (16 : Byte).setWidth 16 + len = 16 + len := rfl
  rw [streamed_sendCalls]
  simp only [dataBytes, hsixteen, spiWrite, spiHeader, sendFields, sendLength, toBytes_two,
    List.flatten_cons, List.flatten_nil, List.cons_append, List.nil_append,
    List.append_assoc, List.append_nil]

theorem length_sendFields (sd : Byte) (buf : Mem) (len : BitVec 16) (flags : Byte) :
    (sendFields sd buf len flags).flatten.length =
      26 + len.toNat + (paddingBytes (startSendPadding (sendLength len))).length := by
  simp only [sendFields, List.flatten_cons, List.flatten_nil, List.length_append,
    List.length_cons, List.length_nil, length_toBytes, length_bytesFrom]
  omega

/-- The length field covers the frame as long as the sum with the headers and the padding
fits sixteen bits. -/
theorem spiLength_iff (len : BitVec 16) :
    5 + (startSendLength (sendLength len)).toNat =
        26 + len.toNat + (paddingBytes (startSendPadding (sendLength len))).length ↔
      len.toNat ≤ 65514 := by
  have hlt := len.isLt
  have hlength : (sendLength len).toNat = (21 + len.toNat) % 65536 := by
    have hfive : hciDataHeaderLength.toNat = 5 := rfl
    have hsixteen : (16 : BitVec 16).toNat = 16 := rfl
    rw [sendLength, BitVec.toNat_add, BitVec.toNat_add, hfive, hsixteen]
    omega
  obtain ⟨-, hlen, hpad⟩ | ⟨heven, hlen, hpad⟩ := startSend_cases (sendLength len)
  · rw [hlen, hpad, hlength, List.length_nil]
    omega
  · rw [hlength] at heven
    rw [hlen, hpad, hlength, List.length_singleton]
    omega

/-- Read back from its bytes, the frame is as it should be exactly for the lengths that
leave room for the headers. -/
theorem carriesBuffer_iff (sd : Byte) (buf : Mem) (len : BitVec 16) (flags : Byte) :
    CarriesBuffer (sendFields sd buf len flags).flatten sd buf len flags ↔
      len.toNat ≤ 65514 := by
  obtain ⟨frame, hframe⟩ : ∃ frame, frame = (sendFields sd buf len flags).flatten := ⟨_, rfl⟩
  have hcount : (sendFields sd buf len flags).length = 11 := rfl
  have hlength := length_sendFields sd buf len flags
  have hfield := slice_of_fields hframe 1 (by omega) rfl
  have hstarts : offsetOf (sendFields sd buf len flags) 7 = 18 ∧
      offsetOf (sendFields sd buf len flags) 8 = 22 ∧
      offsetOf (sendFields sd buf len flags) 9 = 26 := by
    simp only [sendFields, offsetOf, length_toBytes, List.length_cons, List.length_nil,
      Nat.reduceAdd, and_self]
  obtain ⟨hlengthAt, hflagsAt, hdataAt⟩ := hstarts
  rw [← hframe] at hlength ⊢
  constructor
  · intro h
    obtain ⟨msb, lsb, hslice, hspi⟩ := h.spiLength
    have hbytes := Option.some.inj (hfield.symm.trans hslice)
    have hmsb : (startSendLength (sendLength len) >>> 8).setWidth 8 = msb :=
      (List.cons.inj hbytes).1
    have hlsb : (startSendLength (sendLength len)).setWidth 8 = lsb :=
      (List.cons.inj (List.cons.inj hbytes).2).1
    rw [← hmsb, ← hlsb, word16_split, hlength] at hspi
    exact (spiLength_iff len).mp hspi
  · intro hle
    have hpayload : (16 + len).toNat = 16 + len.toNat := by
      have hsixteen : (16 : BitVec 16).toNat = 16 := rfl
      rw [BitVec.toNat_add, hsixteen]
      omega
    have hsd := sd.isLt
    have hflags := flags.isLt
    exact {
      operation := slice_of_fields hframe 0 (by omega) rfl
      spiLength := by
        refine ⟨_, _, hfield, ?_⟩
        rw [word16_split, hlength]
        exact (spiLength_iff len).mpr hle
      header := slice_of_fields hframe 3 (by omega) rfl
      payloadLength := by
        rw [← hpayload]
        exact wordAt_of_fields hframe 4 (by omega) rfl (16 + len).isLt
      socket := wordAt_of_fields hframe 5 (by omega) rfl (by omega)
      argument := wordAt_of_fields hframe 6 (by omega) rfl (by decide)
      length := by
        rw [← hlengthAt]
        exact wordAt_of_fields hframe 7 (by omega) rfl (by omega)
      flags := by
        rw [← hflagsAt]
        exact wordAt_of_fields hframe 8 (by omega) rfl (by omega)
      data := by
        rw [← hdataAt]
        exact slice_of_fields hframe 9 (by omega) (length_bytesFrom _ _) }

theorem cc3000Send_of_free (sd : Byte) (buf : Mem) (len : BitVec 16) (flags : Byte) (s : State)
    (hfree : s.freeBuffers ≠ 0#8) :
    cc3000Send sd buf len flags s =
      (1,
        { s with
          freeBuffers := s.freeBuffers - 1
          paddingByteRequired := startSendPadding (sendLength len)
          interruptsEnabled := true
          bus := s.bus ++ bracket (sendFields sd buf len flags).flatten }) := by
  rw [← dataBytes_send, cc3000Send, if_neg hfree]
  have hexec := exec_streamData (hciCmndSend.setWidth 8) 16 len (sendCalls sd buf len flags)
    { s with freeBuffers := s.freeBuffers - 1 }
  exact congrArg (Prod.mk 1) hexec

/-- The frame on the bus is that of the call, so its length field tells how long the buffer
may be. -/
theorem length_le_of_contract {s : State} {sd : Byte} {buf : Mem} {len : BitVec 16}
    {flags : Byte} (hfree : s.freeBuffers ≠ 0#8) (h : SendContract s sd buf len flags) :
    len.toNat ≤ 65514 := by
  obtain ⟨frame, hbus, hcarries⟩ := (h.accepted hfree).bus
  rw [cc3000Send_of_free sd buf len flags s hfree, List.append_cancel_left_eq] at hbus
  have hframe := congrArg bytesOut hbus
  rw [bytesOut_bracket, bytesOut_bracket] at hframe
  rw [← hframe] at hcarries
  exact (carriesBuffer_iff sd buf len flags).mp hcarries

/-- For every socket, flags, driver state, and buffer of any length: the contract holds
exactly when no buffer is free or the length leaves room for the headers. -/
theorem sendContract_iff (s : State) (sd : Byte) (buf : Mem) (len : BitVec 16) (flags : Byte) :
    SendContract s sd buf len flags ↔ s.freeBuffers = 0#8 ∨ len.toNat ≤ 65514 := by
  by_cases hfree : s.freeBuffers = 0#8
  · refine ⟨fun _ => Or.inl hfree, fun _ => ⟨fun _ => if_pos hfree, fun h => ?_⟩⟩
    exact absurd hfree h
  · constructor
    · exact fun h => Or.inr (length_le_of_contract hfree h)
    · intro h
      have hle := h.resolve_left hfree
      refine ⟨fun hzero => absurd hzero hfree, fun _ => ?_⟩
      rw [cc3000Send_of_free sd buf len flags s hfree]
      exact ⟨rfl, rfl, rfl, rfl, rfl, _, rfl, (carriesBuffer_iff sd buf len flags).mpr hle⟩

def oneFree : State := { initial fun _ => 0 with freeBuffers := 1 }

/-- From 65515 bytes on, the SPI length wraps. -/
theorem longSend_wraps : ¬ SendContract oneFree 0 (fun _ => 0) 65515#16 0 := by
  intro h
  have hfree : oneFree.freeBuffers ≠ 0#8 := by decide
  exact absurd (length_le_of_contract hfree h) (by decide)

end Cc3000Async.SendFrames
