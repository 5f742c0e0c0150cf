import Cc3000Async.Opcodes

/-!
The globals of the driver, the bus it drives, and the elementary actions its
straight-line functions are made of. Delays and debug output are left out; a
wait for the IRQ pin is an action that is taken to complete. Arrays are shown
through their base pointer and apart from the other globals; what an access outside
an array would meet is not shown, so results it could spoil ask the frames to keep
inside.
-/
namespace Cc3000Async.DriverState

open ByteMemory Opcodes

inductive Access
  | rxRead (index : ℕ)
  | rxWrite (index : ℕ)
  | returnRead (index : ℕ)
  | returnWrite (index : ℕ)
  deriving DecidableEq, Repr

/-- What the driver does to the pins of the device. -/
inductive BusEvent
  | interruptDisable
  | interruptEnable
  | assertCs
  | deassertCs
  | waitIrq (high : Bool)
  | wlEn (high : Bool)
  | send (byte : Byte)
  | recv (byte : Byte)
  deriving DecidableEq, Repr

/-- The struct behind the global `cc3000_state`. -/
structure Cc3000State where
  initStatus : Byte
  wlanStatus : Byte
  smartConfigComplete : Byte
  connected : Byte
  dhcpComplete : Byte
  ip : Fin 4 → Byte

/-- The globals, the bytes the device will shift out with the number already
read, the interrupt enable, and the bus events so far, oldest first. -/
structure State where
  desiredState : BitVec 32
  currentState : BitVec 32
  returnBuffer : Mem
  returnBufferSize : Byte
  closeSocket : Byte
  expect : BitVec 16
  paddingByteRequired : Byte
  freeBuffers : Byte
  bufferLength : BitVec 16
  state : Cc3000State
  socketActiveStatus : BitVec 32
  spiRxBuffer : Mem
  miso : ℕ → Byte
  misoPos : ℕ
  interruptsEnabled : Bool
  bus : List BusEvent

def socketStatusInitVal : BitVec 32 := 0xFFFF
def socketStatusActive : BitVec 32 := 0
def socketStatusInactive : BitVec 32 := 1

/-- The state before any call: the static initializers of the globals. -/
def initial (miso : ℕ → Byte) : State where
  desiredState := 0
  currentState := 0
  returnBuffer := fun _ => 0
  returnBufferSize := 0
  closeSocket := 0
  expect := 0
  paddingByteRequired := 0
  freeBuffers := 0
  bufferLength := 0
  state := ⟨0, 0, 0, 0, 0, fun _ => 0⟩
  socketActiveStatus := socketStatusInitVal
  spiRxBuffer := fun _ => 0
  miso := miso
  misoPos := 0
  interruptsEnabled := false
  bus := []

/-- The driver's own variables: the state with the receive buffer, the interrupt enable
and the bus, its incoming bytes included, blanked out. -/
def State.globals (s : State) : State :=
  { s with
    spiRxBuffer := fun _ => 0, miso := fun _ => 0, misoPos := 0
    interruptsEnabled := false, bus := [] }

def State.cc3000IsReady (s : State) : Byte :=
  if s.desiredState = s.currentState then 1 else 0

theorem State.cc3000IsReady_eq_one (s : State) :
    s.cc3000IsReady = 1 ↔ s.desiredState = s.currentState := by
  unfold cc3000IsReady
  split <;> simp_all

def mIsValidSd (sd : Byte) : Prop := sd.toNat ≤ 7

instance (sd : Byte) : Decidable (mIsValidSd sd) := inferInstanceAs (Decidable (_ ≤ _))

def mIsValidStatus (status : BitVec 32) : Prop :=
  status = socketStatusActive ∨ status = socketStatusInactive

instance (status : BitVec 32) : Decidable (mIsValidStatus status) :=
  inferInstanceAs (Decidable (_ ∨ _))

def State.setSocketActiveStatus (s : State) (sd : Byte) (status : BitVec 32) : State :=
  if mIsValidSd sd ∧ mIsValidStatus status then
    { s with
      socketActiveStatus :=
        s.socketActiveStatus &&& ~~~(1#32 <<< sd.toNat) ||| status <<< sd.toNat }
  else s

def State.onBus (s : State) (e : BusEvent) : State := { s with bus := s.bus ++ [e] }

/-- The actions between which the reception path may run. -/
inductive Action
  | interruptDisable
  | interruptEnable
  | assertCs
  | deassertCs
  | waitIrq (high : Bool)
  | wlEn (high : Bool)
  | spiSend (byte : Byte)
  | storePadding (padding : Byte)
  | sendPadding
  | incDesiredState
  | hciExpect (command : BitVec 16)
  | resetState
  | setSocketActiveStatus (sd : Byte) (status : BitVec 32)
  deriving DecidableEq, Repr

/-- `sendPadding` is the conditional send at the start of `cc3000_spi_finish_send`
when its argument is the global flag, and `resetState` the block of assignments to
`cc3000_state` at the start of `cc3000_start`. -/
def Action.exec : Action → State → State
  | .interruptDisable, s => { s.onBus .interruptDisable with interruptsEnabled := false }
  | .interruptEnable, s => { s.onBus .interruptEnable with interruptsEnabled := true }
  | .assertCs, s => s.onBus .assertCs
  | .deassertCs, s => s.onBus .deassertCs
  | .waitIrq high, s => s.onBus (.waitIrq high)
  | .wlEn high, s => s.onBus (.wlEn high)
  | .spiSend byte, s => s.onBus (.send byte)
  | .storePadding padding, s => { s with paddingByteRequired := padding }
  | .sendPadding, s => if s.paddingByteRequired ≠ 0 then s.onBus (.send 0) else s
  | .incDesiredState, s => { s with desiredState := s.desiredState + 1 }
  | .hciExpect command, s => { s with expect := command }
  | .resetState, s =>
      { s with
        state :=
          { s.state with
            connected := 0, dhcpComplete := 0, initStatus := 0, wlanStatus := 0
            smartConfigComplete := 0 } }
  | .setSocketActiveStatus sd status, s => s.setSocketActiveStatus sd status

/-- The sending side never writes what the reception path alone may change. -/
theorem Action.exec_received (a : Action) (s : State) :
    (a.exec s).currentState = s.currentState ∧ (a.exec s).returnBuffer = s.returnBuffer ∧
      (a.exec s).freeBuffers = s.freeBuffers := by
  cases a with
  | sendPadding =>
    by_cases hpad : s.paddingByteRequired = 0#8 <;> simp [Action.exec, State.onBus, hpad]
  | setSocketActiveStatus sd status =>
    simp only [Action.exec, State.setSocketActiveStatus]
    split <;> exact ⟨rfl, rfl, rfl⟩
  | _ => exact ⟨rfl, rfl, rfl⟩

theorem Action.exec_desiredState (a : Action) (s : State) :
    (a.exec s).desiredState =
      s.desiredState + BitVec.ofNat 32 ([a].count .incDesiredState) := by
  cases a with
  | sendPadding =>
    by_cases hpad : s.paddingByteRequired = 0#8 <;> simp [Action.exec, State.onBus, hpad]
  | setSocketActiveStatus sd status =>
    simp only [Action.exec, State.setSocketActiveStatus]
    split <;> simp
  | _ => simp [Action.exec, State.onBus]

def Action.armed : Action → Option (BitVec 16)
  | .hciExpect command => some command
  | _ => none

theorem Action.exec_expect (a : Action) (s : State) :
    (a.exec s).expect = a.armed.getD s.expect := by
  cases a with
  | sendPadding =>
    by_cases hpad : s.paddingByteRequired = 0#8 <;>
      simp [Action.exec, Action.armed, State.onBus, hpad]
  | setSocketActiveStatus sd status =>
    simp only [Action.exec, Action.armed, State.setSocketActiveStatus]
    split <;> rfl
  | _ => rfl

theorem Action.armed_eq_some (a : Action) (op : BitVec 16) :
    a.armed = some op ↔ a = .hciExpect op := by
  cases a <;> simp [Action.armed]

/-- A straight-line function of the driver. -/
abbrev Prog := List Action

namespace Prog

def exec : Prog → State → State
  | [], s => s
  | a :: rest, s => exec rest (a.exec s)

@[simp] theorem exec_nil (s : State) : exec [] s = s := rfl

@[simp] theorem exec_cons (a : Action) (p : Prog) (s : State) :
    exec (a :: p) s = exec p (a.exec s) := rfl

theorem exec_append (p q : Prog) (s : State) : exec (p ++ q) s = exec q (exec p s) := by
  induction p generalizing s with
  | nil => rfl
  | cons a p ih => exact ih (a.exec s)

theorem count_raise (a : Action) (p : Prog) :
    (a :: p).count .incDesiredState =
      [a].count .incDesiredState + p.count .incDesiredState := by
  rw [← List.count_append, List.singleton_append]

theorem exec_desiredState (p : Prog) (s : State) :
    (p.exec s).desiredState =
      s.desiredState + BitVec.ofNat 32 (p.count .incDesiredState) := by
  induction p generalizing s with
  | nil => simp
  | cons a p ih =>
    rw [exec_cons, ih, a.exec_desiredState, count_raise a p, BitVec.ofNat_add, BitVec.add_assoc]

/-- The bytes that the program sends whatever the state. -/
def sent (p : Prog) : List Byte :=
  p.filterMap fun
    | .spiSend byte => some byte
    | _ => none

@[simp] theorem sent_append (p q : Prog) : sent (p ++ q) = sent p ++ sent q :=
  List.filterMap_append

@[simp] theorem sent_map_spiSend (bytes : List Byte) : sent (bytes.map .spiSend) = bytes := by
  induction bytes with
  | nil => rfl
  | cons b bytes ih =>
    change b :: sent (bytes.map .spiSend) = b :: bytes
    rw [ih]

/-- Sending bytes appends them to the bus and does nothing else. -/
theorem exec_map_spiSend (bytes : List Byte) (s : State) :
    exec (bytes.map .spiSend) s = { s with bus := s.bus ++ bytes.map .send } := by
  induction bytes generalizing s with
  | nil => simp
  | cons b bytes ih => simp [Action.exec, State.onBus, ih, List.append_assoc]

theorem exec_received (p : Prog) (s : State) :
    (p.exec s).currentState = s.currentState ∧ (p.exec s).returnBuffer = s.returnBuffer ∧
      (p.exec s).freeBuffers = s.freeBuffers := by
  induction p generalizing s with
  | nil => exact ⟨rfl, rfl, rfl⟩
  | cons a p ih =>
    obtain ⟨hcurrent, hreturn, hfree⟩ := ih (a.exec s)
    obtain ⟨hcurrent', hreturn', hfree'⟩ := a.exec_received s
    exact ⟨hcurrent.trans hcurrent', hreturn.trans hreturn', hfree.trans hfree'⟩

end Prog

def bytesOut (events : List BusEvent) : List Byte :=
  events.filterMap fun
    | .send byte => some byte
    | _ => none

@[simp] theorem bytesOut_append (xs ys : List BusEvent) :
    bytesOut (xs ++ ys) = bytesOut xs ++ bytesOut ys := List.filterMap_append

@[simp] theorem bytesOut_map_send (bytes : List Byte) :
    bytesOut (bytes.map .send) = bytes := by
  induction bytes with
  | nil => rfl
  | cons b bytes ih =>
    change b :: bytesOut (bytes.map .send) = b :: bytes
    rw [ih]

end Cc3000Async.DriverState
