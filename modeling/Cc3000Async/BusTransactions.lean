import Cc3000Async.Brackets
import Cc3000Async.FrameRoundTrip
import Cc3000Async.ServiceLoop

/-!
The bus as the device sees it: transactions between an assertion of chip select and the
next deassertion. A transaction that starts with the write operation carries a message of
the driver, any other is a reception. A program is known by the events it will cause,
which depend on the state through the padding flag alone.
-/
namespace Cc3000Async.BusTransactions

open ByteMemory Brackets TracedAccess Opcodes DriverState HciFrames EventHandler SpiReceive
open FrameRoundTrip ServiceLoop

/-- A byte on the bus, out of the driver or into it. -/
inductive Transfer
  | sent (byte : Byte)
  | received (byte : Byte)
  deriving DecidableEq, Repr

/-- Chip select brackets the bytes. The interrupt enable and the power of the device are
switched outside of a bracket only. -/
def mark : BusEvent → Mark Transfer
  | .interruptDisable => .outside
  | .interruptEnable => .outside
  | .assertCs => .opening
  | .deassertCs => .closing
  | .waitIrq _ => .silent
  | .wlEn _ => .outside
  | .send byte => .item (.sent byte)
  | .recv byte => .item (.received byte)

def marks (events : List BusEvent) : List (Mark Transfer) := events.map mark

/-- The transactions of a bus history, none when bytes, brackets or switches stand where
they may not. -/
def transactions (events : List BusEvent) : Option (Reading Transfer) := readAll (marks events)

def isWrite (t : List Transfer) : Bool := t.head? = some (.sent spiOperationWrite)

def writeTransaction (m : Message) : List Transfer := (frameBytes m).map .sent

/-- The transaction in which the device shifts out its bytes: as many as the low length
byte says, if they fit the receive buffer. -/
def readTransaction (reply : ℕ → Byte) : List Transfer :=
  [.sent spiOperationRead, .sent 0, .sent 0, .received (reply 0), .received (reply 1)] ++
    (List.range (if (reply 1).toNat ≤ cc300SpiRxBufferSize then (reply 1).toNat else 0)).map
      fun i => .received (reply (2 + i))

def sentBytes (t : List Transfer) : List Byte :=
  t.filterMap fun
    | .sent byte => some byte
    | .received _ => none

def messageOf (t : List Transfer) : Option Message :=
  match readFrame (sentBytes t) with
  | some (m, []) => some m
  | _ => none

def deviceLog (events : List BusEvent) : Option (List Message) :=
  (transactions events).bind fun r => (r.closed.filter isWrite).mapM messageOf

/-- What the device shifted out, transaction by transaction. -/
def deviceReplies (events : List BusEvent) : Option (List (List Transfer)) :=
  (transactions events).map fun r => r.closed.filter fun t => !isWrite t

theorem marks_append (xs ys : List BusEvent) : marks (xs ++ ys) = marks xs ++ marks ys :=
  List.map_append

theorem transactions_append {xs : List BusEvent} {r : Reading Transfer}
    (h : transactions xs = some r) (ys : List BusEvent) :
    transactions (xs ++ ys) = r.read (marks ys) := by
  rw [transactions, readAll] at h ⊢
  rw [marks_append, Reading.read_append, h]
  rfl

theorem transactions_append_whole {xs ys : List BusEvent} {r : Reading Transfer}
    {ts : List (List Transfer)} (hx : transactions xs = some r) (hr : r.current = none)
    (hy : transactions ys = some { closed := ts, current := none }) :
    transactions (xs ++ ys) = some { closed := r.closed ++ ts, current := none } := by
  rw [transactions_append hx, Reading.read_eq, hr]
  rw [transactions, readAll] at hy
  rw [hy]
  rfl

theorem sentBytes_map (bytes : List Byte) : sentBytes (bytes.map .sent) = bytes := by
  induction bytes with
  | nil => rfl
  | cons b bytes ih =>
    change b :: sentBytes (bytes.map .sent) = b :: bytes
    rw [ih]

theorem isWrite_writeTransaction (m : Message) : isWrite (writeTransaction m) = true := rfl

theorem filter_writes (ms : List Message) :
    (ms.map writeTransaction).filter isWrite = ms.map writeTransaction := by
  apply List.filter_eq_self.mpr
  intro t ht
  obtain ⟨m, -, rfl⟩ := List.mem_map.mp ht
  exact isWrite_writeTransaction m

theorem filter_reads (ms : List Message) :
    (ms.map writeTransaction).filter (fun t => !isWrite t) = [] := by
  apply List.filter_eq_nil_iff.mpr
  intro t ht
  obtain ⟨m, -, rfl⟩ := List.mem_map.mp ht
  rw [isWrite_writeTransaction m]
  exact Bool.false_ne_true

theorem isWrite_readTransaction (reply : ℕ → Byte) : isWrite (readTransaction reply) = false := rfl

theorem messageOf_writeTransaction (m : Message) (h : m.Fits) :
    messageOf (writeTransaction m) = some m := by
  have hread := delimits_frame.decodes m h []
  rw [List.append_nil] at hread
  rw [messageOf, writeTransaction, sentBytes_map, hread]

theorem mapM_messageOf (ms : List Message) (h : ∀ m ∈ ms, m.Fits) :
    (ms.map writeTransaction).mapM messageOf = some ms := by
  induction ms with
  | nil => rfl
  | cons m ms ih =>
    have hrest := ih fun x hx => h x (List.mem_cons_of_mem m hx)
    rw [List.map_cons, List.mapM_cons, messageOf_writeTransaction m (h m List.mem_cons_self), hrest]
    rfl

/-- The bus is at rest and has carried the given messages. -/
def Carries (events : List BusEvent) (ms : List Message) : Prop :=
  (∀ m ∈ ms, m.Fits) ∧ ∃ closed, transactions events = some { closed := closed, current := none } ∧
    closed.filter isWrite = ms.map writeTransaction

theorem carries_nil : Carries [] [] :=
  ⟨fun _ hm => absurd hm List.not_mem_nil, [], rfl, rfl⟩

theorem Carries.deviceLog {events : List BusEvent} {ms : List Message}
    (h : Carries events ms) : deviceLog events = some ms := by
  obtain ⟨hfits, closed, hread, hwrites⟩ := h
  rw [BusTransactions.deviceLog, hread, Option.bind_some, hwrites, mapM_messageOf ms hfits]

theorem Carries.append {events more : List BusEvent} {ms ms' : List Message}
    (h : Carries events ms) (h' : Carries more ms') : Carries (events ++ more) (ms ++ ms') := by
  obtain ⟨hfits, closed, hread, hwrites⟩ := h
  obtain ⟨hfits', closed', hread', hwrites'⟩ := h'
  refine ⟨?_, _, transactions_append_whole hread rfl hread', ?_⟩
  · intro m hm
    exact (List.mem_append.mp hm).elim (hfits m) (hfits' m)
  · rw [List.filter_append, hwrites, hwrites', List.map_append]

theorem transactions_sends {before after : List BusEvent}
    (hbefore : (opened none).read (marks before) = some (opened (some [])))
    (hafter : ∀ t, (opened (some t)).read (marks after) = some { closed := [t], current := none })
    (bytes : List Byte) :
    transactions (before ++ bytes.map .send ++ after) =
      some { closed := [bytes.map .sent], current := none } := by
  have hmarks : marks (before ++ bytes.map .send ++ after) =
      marks before ++ (bytes.map .sent).map .item ++ marks after := by
    simp [marks, mark, List.map_map, Function.comp_def]
  have hitems := Reading.read_items [] [] (bytes.map Transfer.sent)
  rw [transactions, hmarks, readAll, Reading.read_append, Reading.read_append, hbefore,
    Option.bind_some, opened, hitems, Option.bind_some]
  exact hafter _

theorem transactions_bracket (bytes : List Byte) :
    transactions (bracket bytes) = some { closed := [bytes.map .sent], current := none } :=
  transactions_sends rfl (fun _ => rfl) bytes

section Programs

def eventsOf (padding : Byte) : Action → List BusEvent
  | .interruptDisable => [.interruptDisable]
  | .interruptEnable => [.interruptEnable]
  | .assertCs => [.assertCs]
  | .deassertCs => [.deassertCs]
  | .waitIrq high => [.waitIrq high]
  | .wlEn high => [.wlEn high]
  | .spiSend byte => [.send byte]
  | .sendPadding => if padding ≠ 0 then [.send 0] else []
  | _ => []

def paddingAfter (padding : Byte) : Action → Byte
  | .storePadding padding => padding
  | _ => padding

def enabledAfter (enabled : Bool) : Action → Bool
  | .interruptDisable => false
  | .interruptEnable => true
  | _ => enabled

def trace : Byte → Prog → List BusEvent
  | _, [] => []
  | padding, a :: p => eventsOf padding a ++ trace (paddingAfter padding a) p

/-- Chip select is asserted with the interrupt disabled only. -/
def Masked : Bool → Prog → Prop
  | _, [] => True
  | enabled, a :: p => (a = .assertCs → enabled = false) ∧ Masked (enabledAfter enabled a) p

theorem Action.exec_line (a : Action) (s : State) :
    (a.exec s).bus = s.bus ++ eventsOf s.paddingByteRequired a ∧
      (a.exec s).paddingByteRequired = paddingAfter s.paddingByteRequired a ∧
      (a.exec s).interruptsEnabled = enabledAfter s.interruptsEnabled a := by
  cases a with
  | sendPadding =>
    by_cases hpad : s.paddingByteRequired = 0#8 <;>
      simp [Action.exec, State.onBus, eventsOf, paddingAfter, enabledAfter, hpad]
  | setSocketActiveStatus sd status =>
    simp only [Action.exec, State.setSocketActiveStatus]
    split <;> simp [eventsOf, paddingAfter, enabledAfter]
  | _ => simp [Action.exec, State.onBus, eventsOf, paddingAfter, enabledAfter]

theorem bus_exec_trace (p : Prog) (s : State) :
    (p.exec s).bus = s.bus ++ trace s.paddingByteRequired p := by
  induction p generalizing s with
  | nil => simp [trace]
  | cons a p ih =>
    obtain ⟨hbus, hpadding, -⟩ := Action.exec_line a s
    rw [Prog.exec_cons, ih, hbus, hpadding, trace, List.append_assoc]

/-- The trace of a program is read off what it appends to the bus. -/
theorem trace_eq_of_exec {p : Prog} {padding : Byte} {events : List BusEvent}
    (h : ∀ s : State, s.paddingByteRequired = padding → (p.exec s).bus = s.bus ++ events) :
    trace padding p = events := by
  have hexec := h { initial (fun _ => 0) with paddingByteRequired := padding } rfl
  rw [bus_exec_trace] at hexec
  exact List.append_cancel_left hexec

theorem masked_cons (enabled : Bool) (a : Action) (p : Prog) :
    Masked enabled (a :: p) ↔
      (a = .assertCs → enabled = false) ∧ Masked (enabledAfter enabled a) p := Iff.rfl

theorem masked_of_not_mem {p : Prog} (h : Action.assertCs ∉ p) (enabled : Bool) :
    Masked enabled p := by
  induction p generalizing enabled with
  | nil => trivial
  | cons a p ih =>
    rw [List.mem_cons, not_or] at h
    exact ⟨fun ha => absurd ha.symm h.1, ih h.2 _⟩

end Programs

section Receptions

variable (s : State)

/-- A reception leaves the sending side and the bus lines alone, and adds one whole
transaction to the bus. -/
structure Receives (reply : ℕ → Byte) (s t : State) : Prop where
  bus : ∃ events, t.bus = s.bus ++ events ∧
    transactions events = some { closed := [readTransaction reply], current := none }
  paddingByteRequired : t.paddingByteRequired = s.paddingByteRequired
  desiredState : t.desiredState = s.desiredState

/-- The events of a reception are a bracket around what the device shifts out. -/
theorem transactions_reception (n : ℕ)
    (hn : n = if (lengthLsb s).toNat ≤ cc300SpiRxBufferSize then (lengthLsb s).toNat else 0)
    {reply : ℕ → Byte} (hreply : ∀ i, s.miso (s.misoPos + i) = reply i) :
    transactions (headerEvents s ++ payloadEvents s n ++ [.deassertCs]) =
      some { closed := [readTransaction reply], current := none } := by
  have hmsb : lengthMsb s = reply 0 := hreply 0
  have hlsb : lengthLsb s = reply 1 := hreply 1
  have hpayload : ∀ i, payload s i = reply (2 + i) := by
    intro i
    rw [payload, Nat.add_assoc]
    exact hreply (2 + i)
  have hmarks : marks (headerEvents s ++ payloadEvents s n ++ [.deassertCs]) =
      bracketMarks (readTransaction reply) := by
    rw [hlsb] at hn
    simp [marks, headerEvents, payloadEvents, mark, bracketMarks, readTransaction, hmsb, hlsb,
      hpayload, ← hn, List.map_map, Function.comp_def]
  rw [transactions, hmarks, readAll, read_bracketMarks]

theorem Receives.carries {s t : State} {reply : ℕ → Byte} (h : Receives reply s t)
    {ms : List Message} (hs : Carries s.bus ms) : Carries t.bus ms := by
  obtain ⟨events, hbus, hwhole⟩ := h.bus
  have hmore : Carries events [] := ⟨fun _ hm => absurd hm List.not_mem_nil, _, hwhole, rfl⟩
  rw [hbus, ← List.append_nil ms]
  exact hs.append hmore

theorem receives_cc3000SpiReceive {reply : ℕ → Byte}
    (hreply : ∀ i, s.miso (s.misoPos + i) = reply i) :
    Receives reply s (cc3000SpiReceive s).val.2 ∧
      (cc3000SpiReceive s).val.2.interruptsEnabled = s.interruptsEnabled := by
  by_cases h : Accepts s
  · have hn : (lengthLsb s).toNat =
        if (lengthLsb s).toNat ≤ cc300SpiRxBufferSize then (lengthLsb s).toNat else 0 :=
      (if_pos h.1).symm
    have hread := transactions_reception s _ hn hreply
    rw [val_cc3000SpiReceive_of_accepts s h]
    rw [handle_eq]
    refine ⟨⟨⟨_, ?_, hread⟩, rfl, rfl⟩, rfl⟩
    simp only [Action.exec, State.onBus, receiving, List.append_assoc]
  · have hn : 0 =
        if (lengthLsb s).toNat ≤ cc300SpiRxBufferSize then (lengthLsb s).toNat else 0 := by
      by_cases hle : (lengthLsb s).toNat ≤ cc300SpiRxBufferSize
      · have hzero : lengthLsb s = 0#8 := by
          by_contra hne
          exact h ⟨hle, hne⟩
        rw [if_pos hle, hzero]
        rfl
      · rw [if_neg hle]
    have hread := transactions_reception s 0 hn hreply
    rw [val_cc3000SpiReceive_of_not_accepts s h]
    refine ⟨⟨⟨_, ?_, hread⟩, rfl, rfl⟩, rfl⟩
    simp [payloadEvents, List.append_assoc]

end Receptions

end Cc3000Async.BusTransactions
