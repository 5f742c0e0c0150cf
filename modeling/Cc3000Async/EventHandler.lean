import Cc3000Async.TracedAccess
import Cc3000Async.DriverState
import Mathlib.Data.Fin.VecNotation

/-!
The event handler and the getters of the return buffer. The handler reads the
received frame through a pointer and is never told how many bytes arrived; its
accesses are recorded. `handle_eq` states everything one call does to the state,
field by field, and later modules use only that.
-/
namespace Cc3000Async.EventHandler

open ByteMemory Opcodes TracedAccess DriverState

def rx (data : Mem) (index : ℕ) : Traced Access Byte :=
  Traced.access (.rxRead index) (data index)

def storeReturn (index : ℕ) (byte : Byte) (s : State) : Traced Access State :=
  Traced.access (.returnWrite index)
    { s with returnBuffer := fun i => if i = index then byte else s.returnBuffer i }

def cc3000SetReturn (data : Mem) (offset size : Byte) (s : State) : Traced Access State :=
  Traced.countUp
    (fun count s => do
      let byte ← rx data (count + offset.toNat)
      storeReturn count byte s)
    size.toNat s

/-- The test "did we expect the returned opcode?", made alike for both frame types. -/
def gotOpcode (hciOpcode : BitVec 16) (s : State) : State :=
  if hciOpcode = s.expect then { s with currentState := s.currentState + 1, expect := 0 } else s

/-- The inner switch on opcodes with the bit of an unsolicited event. -/
def unsolEvent (hciOpcode : BitVec 16) (data : Mem) (s : State) : Traced Access State :=
  if hciOpcode = hciEvntDataUnsolFreeBuff then do
    let bufferCount ← rx data 5
    Traced.countUp
      (fun count s => do
        let myBuffersFree ← rx data (5 + 2 + 2 + count * 2)
        pure { s with freeBuffers := s.freeBuffers + myBuffersFree })
      bufferCount.toNat s
  else pure s

/-- The inner switch on opcodes with the bit of an unsolicited WLAN event. The
labels that only break are not listed. -/
def wlanUnsolEvent (hciOpcode : BitVec 16) (data : Mem) (s : State) : Traced Access State :=
  if hciOpcode = hciEvntWlanUnsolConnect then
    pure { s with state := { s.state with connected := 1 } }
  else if hciOpcode = hciEvntWlanUnsolDisconnect then
    pure { s with state := { s.state with connected := 0 } }
  else if hciOpcode = hciEvntWlanUnsolDhcp then do
    let ip0 ← rx data 5
    let ip1 ← rx data 6
    let ip2 ← rx data 7
    let ip3 ← rx data 8
    pure { s with state := { s.state with ip := ![ip0, ip1, ip2, ip3], dhcpComplete := 1 } }
  else if hciOpcode = hciEvntBsdTcpCloseWait then
    pure { s with closeSocket := 1 }
  else pure s

/-- What an event does once its opcode and length are read. The size handed to
the copy is narrowed to a byte by the parameter type of `cc3000_set_return`. -/
def dispatchEvent (hciOpcode hciArgsLength : BitVec 16) (data : Mem) (s : State) :
    Traced Access State :=
  if hciOpcode &&& hciEvntUnsolBase ≠ 0#16 then
    unsolEvent hciOpcode data (gotOpcode hciOpcode s)
  else if hciOpcode &&& hciEvntWlanUnsolBase ≠ 0#16 then
    wlanUnsolEvent hciOpcode data (gotOpcode hciOpcode s)
  else if hciOpcode ∈ normalEvents then
    cc3000SetReturn data hciArgsOffset (hciArgsLength.setWidth 8) (gotOpcode hciOpcode s)
  else pure (gotOpcode hciOpcode s)

/-- The case `HCI_TYPE_EVENT`. -/
def handleEvent (data : Mem) (s : State) : Traced Access State := do
  let opcodeMsb ← rx data hciOpcodeMsbOffset
  let opcodeLsb ← rx data hciOpcodeLsbOffset
  let lengthMsb ← rx data hciArgsLengthMsbOffset
  let lengthLsb ← rx data hciArgsLengthLsbOffset
  dispatchEvent (word16 opcodeMsb opcodeLsb) (word16 lengthMsb lengthLsb) data s

def dispatchData (hciOpcode hciArgsLength : BitVec 16) (data : Mem) (s : State) :
    Traced Access State :=
  if hciOpcode = hciDataRecv then
    cc3000SetReturn data 2 (hciArgsLength.setWidth 8) (gotOpcode hciOpcode s)
  else pure (gotOpcode hciOpcode s)

/-- The case `HCI_TYPE_DATA`, whose opcode is one byte and whose length is the
payload length plus the size of the arguments. -/
def handleData (data : Mem) (s : State) : Traced Access State := do
  let opcode ← rx data hciOpcodeLsbOffset
  let lengthMsb ← rx data hciArgsLengthMsbOffset
  let lengthLsb ← rx data hciArgsLengthLsbOffset
  let argsSize ← rx data 2
  dispatchData (opcode.setWidth 16) (word16 lengthMsb lengthLsb + argsSize.setWidth 16) data s

def cc3000EventHandler (data : Mem) (s : State) : Traced Access (Byte × State) := do
  let hciType ← rx data hciTypeOffset
  let s ←
    if hciType = hciTypeEvent then handleEvent data s
    else if hciType = hciTypeData then handleData data s
    else pure s
  pure (1, s)

def handle (data : Mem) (s : State) : State := (cc3000EventHandler data s).val.2

def returned (s : State) (index : ℕ) : Traced Access Byte :=
  Traced.access (.returnRead index) (s.returnBuffer index)

def cc3000GetReturnUint8 (s : State) (offset : Byte) : Traced Access Byte :=
  returned s (0 + offset.toNat)

def cc3000GetReturnUint16 (s : State) (offset : Byte) : Traced Access (BitVec 16) := do
  let msb ← returned s (1 + offset.toNat)
  let lsb ← returned s (0 + offset.toNat)
  pure (word16 msb lsb)

/-- The four bytes that the 32-bit getters read, in the order they do. -/
def returnedWord32 (s : State) (offset : Byte) : Traced Access (BitVec 32) := do
  let b3 ← returned s (3 + offset.toNat)
  let b2 ← returned s (2 + offset.toNat)
  let b1 ← returned s (1 + offset.toNat)
  let b0 ← returned s (0 + offset.toNat)
  pure (word32 b3 b2 b1 b0)

def cc3000GetReturnUint32 (s : State) (offset : Byte) : Traced Access (BitVec 32) :=
  returnedWord32 s offset

/-- The same steps on a signed word; two's complement is left to the reader of it. -/
def cc3000GetReturnInt32 (s : State) (offset : Byte) : Traced Access (BitVec 32) :=
  returnedWord32 s offset

def cc3000GetReturnStream (s : State) (data : Mem) (offset size : Byte) : Traced Access Mem :=
  Traced.countUp
    (fun count data => do
      let byte ← returned s (count + offset.toNat)
      pure fun i => if i = count then byte else data i)
    size.toNat data

def getReturnSize (s : State) : Byte := s.returnBufferSize

theorem val_cc3000GetReturnStream (s : State) (data : Mem) (offset size : Byte) :
    (cc3000GetReturnStream s data offset size).val =
      overlay (fun i => s.returnBuffer (i + offset.toNat)) size.toNat data := by
  unfold cc3000GetReturnStream
  have hloop := Traced.val_countUp
    (fun count data => do
      let byte ← returned s (count + offset.toNat)
      pure fun i => if i = count then byte else data i)
    (fun n => overlay (fun i => s.returnBuffer (i + offset.toNat)) n data)
    (fun i => by
      simp only [returned, Traced.val_bind, Traced.val_access, Traced.val_pure]
      rw [← overlay_succ])
    size.toNat
  simpa only [overlay_zero] using hloop

/-- The opcode the handler compares with the expected one; none for the frame
types it ignores. -/
def frameOpcode (data : Mem) : Option (BitVec 16) :=
  if data 0 = hciTypeEvent then some (word16 (data 2) (data 1))
  else if data 0 = hciTypeData then some ((data 1).setWidth 16)
  else none

/-- The opcodes whose arguments reach the return buffer: a label of the last
switch that the two bit tests before it let through. -/
def NormalEvent (hciOpcode : BitVec 16) : Prop :=
  hciOpcode &&& hciEvntUnsolBase = 0#16 ∧ hciOpcode &&& hciEvntWlanUnsolBase = 0#16 ∧
    hciOpcode ∈ normalEvents

instance (hciOpcode : BitVec 16) : Decidable (NormalEvent hciOpcode) :=
  inferInstanceAs (Decidable (_ ∧ _))

def copyBlock (data : Mem) : Option (ℕ × ℕ) :=
  if data 0 = hciTypeEvent then
    if NormalEvent (word16 (data 2) (data 1)) then some (5, (data 3).toNat) else none
  else if data 0 = hciTypeData ∧ (data 1).setWidth 16 = hciDataRecv then
    some (2, (data 3 + data 2).toNat)
  else none

def copyReturn (data : Mem) (buffer : Mem) : Mem :=
  match copyBlock data with
  | some (offset, size) => overlay (fun i => data (i + offset)) size buffer
  | none => buffer

/-- What the first iterations of the free-buffer loop add to the counter. -/
def creditSum (data : Mem) : ℕ → Byte
  | 0 => 0
  | n + 1 => creditSum data n + data (5 + 2 + 2 + n * 2)

def IsEvent (data : Mem) (hciOpcode : BitVec 16) : Prop :=
  data 0 = hciTypeEvent ∧ word16 (data 2) (data 1) = hciOpcode

instance (data : Mem) (hciOpcode : BitVec 16) : Decidable (IsEvent data hciOpcode) :=
  inferInstanceAs (Decidable (_ ∧ _))

theorem frameOpcode_of_isEvent {data : Mem} {hciOpcode : BitVec 16}
    (h : IsEvent data hciOpcode) : frameOpcode data = some hciOpcode := by
  obtain ⟨htype, hop⟩ := h
  rw [frameOpcode, if_pos htype, hop]

theorem isEvent_unique {data : Mem} {x y : BitVec 16} (hx : IsEvent data x)
    (hy : IsEvent data y) : x = y := hx.2.symm.trans hy.2

def credits (data : Mem) : Byte :=
  if IsEvent data hciEvntDataUnsolFreeBuff then creditSum data (data 5).toNat else 0

def linkAfter (data : Mem) (c : Cc3000State) : Cc3000State :=
  if IsEvent data hciEvntWlanUnsolConnect then { c with connected := 1 }
  else if IsEvent data hciEvntWlanUnsolDisconnect then { c with connected := 0 }
  else if IsEvent data hciEvntWlanUnsolDhcp then
    { c with ip := ![data 5, data 6, data 7, data 8], dhcpComplete := 1 }
  else c

def closeAfter (data : Mem) (closeSocket : Byte) : Byte :=
  if IsEvent data hciEvntBsdTcpCloseWait then 1 else closeSocket

theorem gotOpcode_eq (hciOpcode : BitVec 16) (s : State) :
    gotOpcode hciOpcode s =
      { s with
        currentState := if hciOpcode = s.expect then s.currentState + 1 else s.currentState
        expect := if hciOpcode = s.expect then 0 else s.expect } := by
  unfold gotOpcode
  split <;> rfl

theorem val_cc3000SetReturn (data : Mem) (offset size : Byte) (s : State) :
    (cc3000SetReturn data offset size s).val =
      { s with
        returnBuffer :=
          overlay (fun i => data (i + offset.toNat)) size.toNat s.returnBuffer } := by
  unfold cc3000SetReturn
  have hloop := Traced.val_countUp
    (fun count s => do
      let byte ← rx data (count + offset.toNat)
      storeReturn count byte s)
    (fun n =>
      { s with
        returnBuffer := overlay (fun i => data (i + offset.toNat)) n s.returnBuffer })
    (fun i => by
      simp only [rx, storeReturn, Traced.val_bind, Traced.val_access]
      rw [← overlay_succ])
    size.toNat
  simpa only [overlay_zero] using hloop

theorem val_unsolEvent (hciOpcode : BitVec 16) (data : Mem) (s : State) :
    (unsolEvent hciOpcode data s).val =
      if hciOpcode = hciEvntDataUnsolFreeBuff then
        { s with freeBuffers := s.freeBuffers + creditSum data (data 5).toNat }
      else s := by
  unfold unsolEvent
  split
  · have hloop := Traced.val_countUp
      (fun count s => do
        let myBuffersFree ← rx data (5 + 2 + 2 + count * 2)
        pure { s with freeBuffers := s.freeBuffers + myBuffersFree })
      (fun n => { s with freeBuffers := s.freeBuffers + creditSum data n })
      (fun i => by
        simp only [rx, Traced.val_bind, Traced.val_access, Traced.val_pure, creditSum,
          BitVec.add_assoc])
      (data 5).toNat
    simpa [creditSum, rx] using hloop
  · rfl

theorem val_wlanUnsolEvent (hciOpcode : BitVec 16) (data : Mem) (s : State) :
    (wlanUnsolEvent hciOpcode data s).val =
      { s with
        state :=
          if hciOpcode = hciEvntWlanUnsolConnect then { s.state with connected := 1 }
          else if hciOpcode = hciEvntWlanUnsolDisconnect then { s.state with connected := 0 }
          else if hciOpcode = hciEvntWlanUnsolDhcp then
            { s.state with ip := ![data 5, data 6, data 7, data 8], dhcpComplete := 1 }
          else s.state
        closeSocket :=
          if hciOpcode = hciEvntBsdTcpCloseWait then 1 else s.closeSocket } := by
  unfold wlanUnsolEvent
  by_cases hconnect : hciOpcode = hciEvntWlanUnsolConnect
  · subst hconnect
    rfl
  by_cases hdisconnect : hciOpcode = hciEvntWlanUnsolDisconnect
  · subst hdisconnect
    rfl
  by_cases hdhcp : hciOpcode = hciEvntWlanUnsolDhcp
  · subst hdhcp
    rfl
  by_cases hclose : hciOpcode = hciEvntBsdTcpCloseWait
  · subst hclose
    rfl
  · simp [hconnect, hdisconnect, hdhcp, hclose]

/-- The bits of an opcode decide which of the inner switches can name it. -/
theorem special_opcodes (hciOpcode : BitVec 16) :
    (hciOpcode = hciEvntDataUnsolFreeBuff → hciOpcode &&& hciEvntUnsolBase ≠ 0#16) ∧
    (hciOpcode = hciEvntWlanUnsolConnect ∨ hciOpcode = hciEvntWlanUnsolDisconnect ∨
      hciOpcode = hciEvntWlanUnsolDhcp ∨ hciOpcode = hciEvntBsdTcpCloseWait →
      hciOpcode &&& hciEvntUnsolBase = 0#16 ∧ hciOpcode &&& hciEvntWlanUnsolBase ≠ 0#16) := by
  constructor
  · rintro rfl
    decide
  · rintro (rfl | rfl | rfl | rfl) <;> decide

theorem val_dispatchEvent (hciOpcode hciArgsLength : BitVec 16) (data : Mem) (s : State) :
    (dispatchEvent hciOpcode hciArgsLength data s).val =
      { gotOpcode hciOpcode s with
        returnBuffer :=
          if NormalEvent hciOpcode then
            overlay (fun i => data (i + 5)) (hciArgsLength.setWidth 8).toNat s.returnBuffer
          else s.returnBuffer
        freeBuffers :=
          s.freeBuffers +
            if hciOpcode = hciEvntDataUnsolFreeBuff then creditSum data (data 5).toNat else 0
        state :=
          if hciOpcode = hciEvntWlanUnsolConnect then { s.state with connected := 1 }
          else if hciOpcode = hciEvntWlanUnsolDisconnect then { s.state with connected := 0 }
          else if hciOpcode = hciEvntWlanUnsolDhcp then
            { s.state with ip := ![data 5, data 6, data 7, data 8], dhcpComplete := 1 }
          else s.state
        closeSocket :=
          if hciOpcode = hciEvntBsdTcpCloseWait then 1 else s.closeSocket } := by
  obtain ⟨hfree, hwlan⟩ := special_opcodes hciOpcode
  unfold dispatchEvent NormalEvent
  rw [gotOpcode_eq]
  simp only [Traced.val_ite, val_unsolEvent, val_wlanUnsolEvent, val_cc3000SetReturn,
    Traced.val_pure, hciArgsOffset]
  by_cases hfree' : hciOpcode = hciEvntDataUnsolFreeBuff
  · subst hfree'
    rfl
  by_cases hu : hciOpcode &&& hciEvntUnsolBase = 0#16
  · by_cases hw : hciOpcode &&& hciEvntWlanUnsolBase = 0#16
    · have hnot := mt hwlan (fun h => h.2 hw)
      simp only [not_or] at hnot
      by_cases hn : hciOpcode ∈ normalEvents <;> simp [hu, hw, hfree', hnot, hn]
    · simp [hu, hw, hfree']
  · have hnot := mt hwlan (fun h => hu h.1)
    simp only [not_or] at hnot
    simp [hu, hfree', hnot]

theorem val_dispatchData (hciOpcode hciArgsLength : BitVec 16) (data : Mem) (s : State) :
    (dispatchData hciOpcode hciArgsLength data s).val =
      { gotOpcode hciOpcode s with
        returnBuffer :=
          if hciOpcode = hciDataRecv then
            overlay (fun i => data (i + 2)) (hciArgsLength.setWidth 8).toNat s.returnBuffer
          else s.returnBuffer } := by
  unfold dispatchData
  rw [gotOpcode_eq]
  split <;> simp only [val_cc3000SetReturn, Traced.val_pure, BitVec.reduceToNat]

/-- The narrowed size of a data copy is the sum of the two low length bytes. -/
theorem setWidth_dataLength (msb lsb argsSize : Byte) :
    (word16 msb lsb + argsSize.setWidth 16).setWidth 8 = lsb + argsSize := by
  apply BitVec.eq_of_toNat_eq
  have hl := lsb.isLt
  have ha := argsSize.isLt
  simp only [BitVec.toNat_setWidth, BitVec.toNat_add, toNat_word16]
  omega

theorem copyReturn_of_event (data buffer : Mem) (htype : data 0 = hciTypeEvent) :
    copyReturn data buffer =
      if NormalEvent (word16 (data 2) (data 1)) then
        overlay (fun i => data (i + 5)) (data 3).toNat buffer
      else buffer := by
  unfold copyReturn copyBlock
  rw [if_pos htype]
  split_ifs <;> rfl

theorem copyReturn_of_data (data buffer : Mem) (htype : data 0 = hciTypeData) :
    copyReturn data buffer =
      if (data 1).setWidth 16 = hciDataRecv then
        overlay (fun i => data (i + 2)) (data 3 + data 2).toNat buffer
      else buffer := by
  have hne : hciTypeData ≠ hciTypeEvent := by decide
  unfold copyReturn copyBlock
  rw [htype, if_neg hne]
  simp only [true_and]
  split_ifs <;> rfl

theorem copyReturn_copyReturn (data buffer : Mem) :
    copyReturn data (copyReturn data buffer) = copyReturn data buffer := by
  unfold copyReturn
  cases copyBlock data with
  | none => rfl
  | some block =>
    obtain ⟨offset, size⟩ := block
    apply (overlay_eq_self_iff _ _ _).mpr
    intro i hi
    exact (overlay_lt (fun i => data (i + offset)) buffer hi).symm

/-- What a frame can do to the link: one of the three events, or nothing. -/
theorem linkAfter_cases (data : Mem) (c : Cc3000State) :
    (IsEvent data hciEvntWlanUnsolConnect ∧ linkAfter data c = { c with connected := 1 }) ∨
    (IsEvent data hciEvntWlanUnsolDisconnect ∧ linkAfter data c = { c with connected := 0 }) ∨
    (IsEvent data hciEvntWlanUnsolDhcp ∧
      linkAfter data c =
        { c with ip := ![data 5, data 6, data 7, data 8], dhcpComplete := 1 }) ∨
    (¬ IsEvent data hciEvntWlanUnsolConnect ∧ ¬ IsEvent data hciEvntWlanUnsolDisconnect ∧
      ¬ IsEvent data hciEvntWlanUnsolDhcp ∧ linkAfter data c = c) := by
  unfold linkAfter
  split_ifs with hconnect hdisconnect hdhcp
  · exact Or.inl ⟨hconnect, rfl⟩
  · exact Or.inr (Or.inl ⟨hdisconnect, rfl⟩)
  · exact Or.inr (Or.inr (Or.inl ⟨hdhcp, rfl⟩))
  · exact Or.inr (Or.inr (Or.inr ⟨hconnect, hdisconnect, hdhcp, rfl⟩))

theorem linkAfter_of_dhcp {data : Mem} (h : IsEvent data hciEvntWlanUnsolDhcp)
    (c : Cc3000State) :
    linkAfter data c =
      { c with ip := ![data 5, data 6, data 7, data 8], dhcpComplete := 1 } := by
  obtain ⟨hother, -⟩ | ⟨hother, -⟩ | ⟨-, hlink⟩ | ⟨-, -, hnone, -⟩ := linkAfter_cases data c
  · exact absurd (isEvent_unique hother h) (by decide)
  · exact absurd (isEvent_unique hother h) (by decide)
  · exact hlink
  · exact absurd h hnone

theorem linkAfter_linkAfter (data : Mem) (c : Cc3000State) :
    linkAfter data (linkAfter data c) = linkAfter data c := by
  unfold linkAfter
  split_ifs <;> rfl

theorem closeAfter_closeAfter (data : Mem) (closeSocket : Byte) :
    closeAfter data (closeAfter data closeSocket) = closeAfter data closeSocket := by
  unfold closeAfter
  split_ifs <;> rfl

/-- Everything one call of the handler does. Each group of fields depends on the
frame and on its own earlier value only. -/
theorem handle_eq (data : Mem) (s : State) :
    handle data s =
      { s with
        currentState :=
          if frameOpcode data = some s.expect then s.currentState + 1 else s.currentState
        expect := if frameOpcode data = some s.expect then 0 else s.expect
        returnBuffer := copyReturn data s.returnBuffer
        freeBuffers := s.freeBuffers + credits data
        state := linkAfter data s.state
        closeSocket := closeAfter data s.closeSocket } := by
  unfold handle cc3000EventHandler credits linkAfter closeAfter frameOpcode
  simp only [rx, hciTypeOffset, Traced.val_bind, Traced.val_access]
  by_cases hevent : data 0 = hciTypeEvent
  · simp only [copyReturn_of_event data s.returnBuffer hevent, handleEvent, rx,
      Traced.val_bind, Traced.val_access, val_dispatchEvent, gotOpcode_eq, hevent, IsEvent,
      hciOpcodeMsbOffset, hciOpcodeLsbOffset, hciArgsLengthMsbOffset,
      hciArgsLengthLsbOffset, setWidth_word16, if_true, true_and, Option.some.injEq]
    split <;> simp_all
  · by_cases hdata : data 0 = hciTypeData
    · have hne : hciTypeData ≠ hciTypeEvent := by decide
      simp only [copyReturn_of_data data s.returnBuffer hdata, handleData, rx,
        Traced.val_bind, Traced.val_access, val_dispatchData, gotOpcode_eq, hdata, hne,
        IsEvent, hciOpcodeLsbOffset, hciArgsLengthMsbOffset, hciArgsLengthLsbOffset,
        setWidth_dataLength, if_true, if_false, false_and, Option.some.injEq]
      split <;> simp_all
    · simp [hevent, hdata, IsEvent, copyReturn, copyBlock]

/-- The handler neither reads nor writes what is outside the driver's variables. -/
theorem handle_globals (data : Mem) (s : State) :
    (handle data s).globals = handle data s.globals := by
  rw [handle_eq, handle_eq]
  rfl

section Fields

variable (data : Mem) (s : State)

@[simp] theorem handle_desiredState : (handle data s).desiredState = s.desiredState := by
  rw [handle_eq]

theorem handle_currentState :
    (handle data s).currentState =
      if frameOpcode data = some s.expect then s.currentState + 1 else s.currentState := by
  rw [handle_eq]

theorem handle_expect :
    (handle data s).expect = if frameOpcode data = some s.expect then 0 else s.expect := by
  rw [handle_eq]

@[simp] theorem handle_returnBuffer :
    (handle data s).returnBuffer = copyReturn data s.returnBuffer := by
  rw [handle_eq]

@[simp] theorem handle_freeBuffers :
    (handle data s).freeBuffers = s.freeBuffers + credits data := by
  rw [handle_eq]

@[simp] theorem handle_state : (handle data s).state = linkAfter data s.state := by
  rw [handle_eq]

@[simp] theorem handle_closeSocket :
    (handle data s).closeSocket = closeAfter data s.closeSocket := by
  rw [handle_eq]

end Fields

end Cc3000Async.EventHandler
