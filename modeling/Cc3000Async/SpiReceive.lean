import Cc3000Async.EventHandler
import Mathlib.Logic.Basic

/-!
Reception of one SPI frame. The two length bytes meet in a byte-wide accumulator,
so what the driver takes for the length is the second of them alone;
`val_cc3000SpiReceive` states what follows for the state, whatever the device
sends.
-/
namespace Cc3000Async.SpiReceive

open ByteMemory Opcodes TracedAccess DriverState EventHandler

def cc3000SpiRecv (s : State) : Byte × State :=
  (s.miso s.misoPos,
    { s with misoPos := s.misoPos + 1, bus := s.bus ++ [.recv (s.miso s.misoPos)] })

def storeRx (index : ℕ) (byte : Byte) (s : State) : Traced Access State :=
  Traced.access (.rxWrite index)
    { s with spiRxBuffer := fun i => if i = index then byte else s.spiRxBuffer i }

def receiveByte (count : ℕ) (s : State) : Traced Access State :=
  let (byte, s) := cc3000SpiRecv s
  storeRx count byte s

def receiveHeader : Prog :=
  [.assertCs, .spiSend spiOperationRead, .spiSend 0, .spiSend 0]

/-- The accumulator `spi_length` is a byte: the shift empties it. -/
def spiLength (msb lsb : Byte) : Byte := (msb <<< 8) + lsb

def cc3000SpiReceive (s : State) : Traced Access (BitVec 16 × State) := do
  let s := receiveHeader.exec s
  let (msb, s) := cc3000SpiRecv s
  let (lsb, s) := cc3000SpiRecv s
  let length := spiLength msb lsb
  if length.toNat > cc300SpiRxBufferSize ∨ length = 0#8 then
    pure (0, Action.deassertCs.exec s)
  else
    let s ← Traced.countUp receiveByte length.toNat s
    let (_, s) ← cc3000EventHandler s.spiRxBuffer s
    pure (1, Action.deassertCs.exec s)

theorem spiLength_eq (msb lsb : Byte) : spiLength msb lsb = lsb := by
  have hshift : msb <<< 8 = 0#8 := BitVec.shiftLeft_eq_zero (Nat.le_refl 8)
  rw [spiLength, hshift, BitVec.zero_add]

def lengthMsb (s : State) : Byte := s.miso s.misoPos
def lengthLsb (s : State) : Byte := s.miso (s.misoPos + 1)

def announcedLength (s : State) : ℕ := 256 * (lengthMsb s).toNat + (lengthLsb s).toNat

def payload (s : State) : Mem := fun i => s.miso (s.misoPos + 2 + i)

def receivedBuffer (s : State) : Mem :=
  overlay (payload s) (lengthLsb s).toNat s.spiRxBuffer

/-- The low length byte alone decides whether the frame is accepted. -/
def Accepts (s : State) : Prop := (lengthLsb s).toNat ≤ cc300SpiRxBufferSize ∧ lengthLsb s ≠ 0#8

instance (s : State) : Decidable (Accepts s) := inferInstanceAs (Decidable (_ ∧ _))

def headerEvents (s : State) : List BusEvent :=
  [.assertCs, .send spiOperationRead, .send 0, .send 0, .recv (lengthMsb s),
    .recv (lengthLsb s)]

def payloadEvents (s : State) (n : ℕ) : List BusEvent :=
  (List.range n).map fun i => .recv (payload s i)

/-- The state inside the receive loop, after the given number of payload bytes. -/
def receiving (s : State) (n : ℕ) : State :=
  { s with
    misoPos := s.misoPos + 2 + n
    spiRxBuffer := overlay (payload s) n s.spiRxBuffer
    bus := s.bus ++ headerEvents s ++ payloadEvents s n }

theorem val_receiveLoop (s : State) (n : ℕ) :
    (Traced.countUp receiveByte n (receiving s 0)).val = receiving s n := by
  apply Traced.val_countUp
  intro i
  simp only [receiveByte, storeRx, cc3000SpiRecv, receiving, Traced.val_access]
  rw [← overlay_succ]
  simp [payloadEvents, List.range_succ, payload, Nat.add_assoc]

theorem afterHeader (s : State) :
    (cc3000SpiRecv (cc3000SpiRecv (receiveHeader.exec s)).2).2 = receiving s 0 := by
  simp [cc3000SpiRecv, receiveHeader, Action.exec, State.onBus, receiving, headerEvents,
    payloadEvents, lengthMsb, lengthLsb, Nat.add_assoc]

theorem headerBytes (s : State) :
    (cc3000SpiRecv (receiveHeader.exec s)).1 = lengthMsb s ∧
      (cc3000SpiRecv (cc3000SpiRecv (receiveHeader.exec s)).2).1 = lengthLsb s := by
  constructor
  · simp [cc3000SpiRecv, receiveHeader, Action.exec, State.onBus, lengthMsb]
  · simp [cc3000SpiRecv, receiveHeader, Action.exec, State.onBus, lengthLsb]

theorem rejects_iff (s : State) :
    ((lengthLsb s).toNat > cc300SpiRxBufferSize ∨ lengthLsb s = 0#8) ↔ ¬ Accepts s := by
  unfold Accepts
  rw [not_and_or, not_not, Nat.not_le]

theorem val_cc3000SpiReceive_of_accepts (s : State) (h : Accepts s) :
    (cc3000SpiReceive s).val =
      (1, Action.deassertCs.exec
        (handle (receivedBuffer s) (receiving s (lengthLsb s).toNat))) := by
  obtain ⟨hmsb, hlsb⟩ := headerBytes s
  have hloop := val_receiveLoop s (lengthLsb s).toNat
  simp only [cc3000SpiReceive, hmsb, hlsb, spiLength_eq, rejects_iff, h, not_true_eq_false,
    if_false, afterHeader, Traced.val_bind, hloop, Traced.val_pure]
  rfl

theorem receive_of_accepts (s : State) (h : Accepts s) :
    (cc3000SpiReceive s).val.1 = 1 ∧
      (cc3000SpiReceive s).val.2.spiRxBuffer = receivedBuffer s ∧
      (cc3000SpiReceive s).val.2.globals = (handle (receivedBuffer s) s).globals := by
  have hend : ∀ t : State, (Action.deassertCs.exec t).globals = t.globals := fun _ => rfl
  have hstored : (receiving s (lengthLsb s).toNat).globals = s.globals := rfl
  rw [val_cc3000SpiReceive_of_accepts s h]
  refine ⟨rfl, ?_, ?_⟩
  · rw [handle_eq]
    rfl
  · rw [hend, handle_globals, hstored, handle_globals]

/-- A rejected frame costs its header and changes nothing else. -/
theorem val_cc3000SpiReceive_of_not_accepts (s : State) (h : ¬ Accepts s) :
    (cc3000SpiReceive s).val =
      (0, { s with
        misoPos := s.misoPos + 2
        bus := s.bus ++ headerEvents s ++ [.deassertCs] }) := by
  obtain ⟨hmsb, hlsb⟩ := headerBytes s
  simp only [cc3000SpiReceive, hmsb, hlsb, spiLength_eq, rejects_iff, h, not_false_eq_true,
    if_true, afterHeader, Traced.val_pure]
  simp [Action.exec, State.onBus, receiving, payloadEvents]

theorem receive_of_not_accepts (s : State) (h : ¬ Accepts s) :
    (cc3000SpiReceive s).val.1 = 0 ∧
      (cc3000SpiReceive s).val.2.spiRxBuffer = s.spiRxBuffer ∧
      (cc3000SpiReceive s).val.2.globals = s.globals := by
  rw [val_cc3000SpiReceive_of_not_accepts s h]
  exact ⟨rfl, rfl, rfl⟩

end Cc3000Async.SpiReceive
