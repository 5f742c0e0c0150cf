import Cc3000Async.LabelledRuns
import Cc3000Async.DeviceFrames
import Cc3000Async.Requests

/-!
The receive exchange: the application's five steps against the two frames of the
device. Event and data frame share the return buffer and the expectation of the
data frame is armed only when the count is read, so the exchange succeeds exactly
when the data frame is handled after that. The phases below are the states an
exchange can be in, on time or too early.
-/
namespace Cc3000Async.ReceiveExchange

open ByteMemory LabelledRuns Opcodes DriverState EventHandler DeviceFrames SocketOperations
open Requests

/-- The parameters of an exchange: the arguments of the request, the event with the
byte count, the data frame with its 24 argument bytes, and the earlier content of the
receive buffer under each frame. -/
structure Exchange where
  sd : Byte
  len : BitVec 16
  flags : Byte
  eventArgs : List Byte
  dataArgs : List Byte
  payload : List Byte
  staleEvent : Mem
  staleData : Mem
  event_length : 8 ≤ eventArgs.length ∧ eventArgs.length ≤ 245
  count : ∀ i, i < 4 →
    eventArgs.getD (4 + i) 0 = if i = 0 then BitVec.ofNat 8 payload.length else 0
  data_length : dataArgs.length = 24
  payload_length : 1 ≤ payload.length ∧ payload.length ≤ 100

namespace Exchange

def eventData (x : Exchange) : Mem :=
  withPrefix (eventFrame hciEvntRecv x.eventArgs) x.staleEvent

def recvData (x : Exchange) : Mem :=
  withPrefix (dataFrame (hciDataRecv.setWidth 8) x.dataArgs x.payload) x.staleData

end Exchange

inductive Pc
  | waitEvent
  | getBytes
  | waitData
  | getData
  | done
  deriving DecidableEq, Repr

/-- The application's position and variables, the globals, and the frames the device
has still to deliver. -/
structure Config where
  pc : Pc
  numBytes : BitVec 16
  buf : Mem
  st : State
  pending : List Mem

inductive Label
  | app
  | deliver
  deriving DecidableEq, Repr

/-- A wait is left when the driver is ready; the frames arrive in order. -/
def step (c : Config) : Label → Option Config
  | .app =>
      match c.pc with
      | .waitEvent => if c.st.cc3000IsReady = 1 then some { c with pc := .getBytes } else none
      | .getBytes =>
          let r := (cc3000GetRecvBytes c.st).val
          some { c with pc := .waitData, numBytes := r.1, st := r.2 }
      | .waitData => if c.st.cc3000IsReady = 1 then some { c with pc := .getData } else none
      | .getData =>
          let buf := (cc3000GetRecvData c.st c.buf (c.numBytes.setWidth 8)).val
          some { c with pc := .done, buf := buf }
      | .done => none
  | .deliver =>
      match c.pending with
      | [] => none
      | data :: rest => some { c with st := handle data c.st, pending := rest }

def Exchange.start (x : Exchange) (s : State) (buf : Mem) : Config :=
  ⟨.waitEvent, 0, buf, (cc3000ReqRecv x.sd x.len x.flags).prog.exec s,
    [x.eventData, x.recvData]⟩

/-- The finished application has the data, and an application whose frames are all
handled is not left waiting. -/
structure Exchange.Served (x : Exchange) (c : Config) : Prop where
  finished : c.pc = .done → c.numBytes.toNat = x.payload.length ∧ Holds c.buf 0 x.payload
  notStuck : ¬ (c.pending = [] ∧ c.pc = .waitData ∧ c.st.cc3000IsReady = 0)

/-- The data frame, which is the last to come, is handled after the count is read. -/
def AfterCount (c : Config) (l : Label) (_ : Config) : Prop :=
  l = .deliver → c.pending.length = 1 → c.pc ≠ .waitEvent ∧ c.pc ≠ .getBytes

instance (c : Config) (l : Label) (d : Config) : Decidable (AfterCount c l d) :=
  inferInstanceAs (Decidable (_ → _ → _))

def Idle (s : State) : Prop := s.desiredState = s.currentState ∧ s.expect = 0

def Awaits (op : BitVec 16) (s : State) : Prop :=
  s.desiredState = s.currentState + 1 ∧ s.expect = op

/-- The phases of an exchange whose data frame comes on time. -/
inductive OnTime (x : Exchange) : Config → Prop
  | requested (n : BitVec 16) (buf : Mem) (s : State) (h : Awaits hciEvntRecv s) :
      OnTime x ⟨.waitEvent, n, buf, s, [x.eventData, x.recvData]⟩
  | answered (pc : Pc) (n : BitVec 16) (buf : Mem) (s : State)
      (hpc : pc = .waitEvent ∨ pc = .getBytes) (h : Idle s)
      (hcount : s.returnBuffer 4 = BitVec.ofNat 8 x.payload.length) :
      OnTime x ⟨pc, n, buf, s, [x.recvData]⟩
  | counted (n : BitVec 16) (buf : Mem) (s : State) (h : Awaits hciDataRecv s)
      (hn : n.toNat = x.payload.length) : OnTime x ⟨.waitData, n, buf, s, [x.recvData]⟩
  | received (pc : Pc) (n : BitVec 16) (buf : Mem) (s : State)
      (hpc : pc = .waitData ∨ pc = .getData) (h : Idle s) (hn : n.toNat = x.payload.length)
      (hsize : s.returnBuffer 0 = 24) (hdata : Holds s.returnBuffer 27 x.payload) :
      OnTime x ⟨pc, n, buf, s, []⟩
  | finished (n : BitVec 16) (buf : Mem) (s : State) (hn : n.toNat = x.payload.length)
      (hbuf : Holds buf 0 x.payload) : OnTime x ⟨.done, n, buf, s, []⟩

/-- The phases of an exchange whose data frame came before the count was read: the count
is then taken from the data frame's arguments. -/
inductive Early (x : Exchange) : Config → Prop
  | overwritten (pc : Pc) (n : BitVec 16) (buf : Mem) (s : State)
      (hpc : pc = .waitEvent ∨ pc = .getBytes) (h : Idle s) : Early x ⟨pc, n, buf, s, []⟩
  | stuck (n : BitVec 16) (buf : Mem) (s : State) (h : Awaits hciDataRecv s) :
      Early x ⟨.waitData, n, buf, s, []⟩
  | nothing (pc : Pc) (buf : Mem) (s : State)
      (hpc : pc = .waitData ∨ pc = .getData ∨ pc = .done) (h : Idle s) :
      Early x ⟨pc, 0, buf, s, []⟩

theorem Idle.ready {s : State} (h : Idle s) : s.cc3000IsReady = 1 :=
  (State.cc3000IsReady_eq_one s).mpr h.1

theorem Awaits.not_ready {op : BitVec 16} {s : State} (h : Awaits op s) :
    s.cc3000IsReady ≠ 1 := by
  rw [Ne, State.cc3000IsReady_eq_one, h.1]
  bv_omega

theorem Awaits.handle {op : BitVec 16} {s : State} {data : Mem} (h : Awaits op s)
    (hframe : frameOpcode data = some op) : Idle (handle data s) := by
  obtain ⟨hcounters, hexpect⟩ := h
  constructor
  · rw [handle_desiredState, handle_currentState, hexpect, if_pos hframe, hcounters]
  · rw [handle_expect, hexpect, if_pos hframe]

theorem Idle.handle {op : BitVec 16} {s : State} {data : Mem} (h : Idle s)
    (hframe : frameOpcode data = some op) (hop : op ≠ 0) : Idle (handle data s) := by
  obtain ⟨hcounters, hexpect⟩ := h
  have hne : frameOpcode data ≠ some s.expect := by
    rw [hframe, hexpect]
    intro heq
    exact hop (Option.some.inj heq)
  constructor
  · rw [handle_desiredState, handle_currentState, if_neg hne, hcounters]
  · rw [handle_expect, if_neg hne, hexpect]

/-- A positive byte count makes an idle driver wait for the data frame. -/
theorem Idle.awaits_data {s : State} (h : Idle s) :
    Awaits hciDataRecv
      { s with desiredState := s.desiredState + 1, expect := hciDataRecv } := by
  refine ⟨?_, rfl⟩
  change s.desiredState + 1 = s.currentState + 1
  rw [h.1]

section Frames

variable (x : Exchange)

theorem holds_eventData : Holds x.eventData 0 (eventFrame hciEvntRecv x.eventArgs) :=
  holds_withPrefix _ _

theorem holds_recvData :
    Holds x.recvData 0 (dataFrame (hciDataRecv.setWidth 8) x.dataArgs x.payload) :=
  holds_withPrefix _ _

theorem returnBuffer_event (s : State) :
    (handle x.eventData s).returnBuffer 4 = BitVec.ofNat 8 x.payload.length := by
  obtain ⟨hlow, hhigh⟩ := x.event_length
  have hnormal : NormalEvent hciEvntRecv := by decide
  have hcopy := copyReturn_event (holds_eventData x) (by omega) s.returnBuffer
  rw [if_pos hnormal] at hcopy
  have hbyte := event_args (holds_eventData x) 4 (by omega)
  have hcount := x.count 0 (by omega)
  rw [handle_returnBuffer, hcopy, overlay_lt _ _ (by omega)]
  change x.eventData (5 + 4) = _
  rw [hbyte]
  simpa [List.getD_eq_getElem?_getD, List.getElem?_eq_getElem (show 4 < x.eventArgs.length by
    omega)] using hcount

/-- The data frame leaves its argument size and its payload where the application reads
them. -/
theorem returnBuffer_data (s : State) :
    (handle x.recvData s).returnBuffer 0 = 24 ∧
      Holds (handle x.recvData s).returnBuffer 27 x.payload := by
  obtain ⟨hlow, hhigh⟩ := x.payload_length
  have hargs := x.data_length
  have hcopy := copyReturn_data (holds_recvData x) (by decide) (by omega) s.returnBuffer
  obtain ⟨-, -, hsize, -⟩ := data_header (holds_recvData x)
  obtain ⟨-, hpayload⟩ := data_body (holds_recvData x)
  rw [handle_returnBuffer, hcopy]
  constructor
  · rw [overlay_lt _ _ (by omega)]
    change x.recvData 2 = 24
    rw [hsize, hargs]
    rfl
  · intro i hi
    have hbyte := hpayload i hi
    have hat : 27 + i + 2 = 5 + x.dataArgs.length + i := by omega
    rw [overlay_lt _ _ (by omega)]
    change x.recvData (27 + i + 2) = _
    rw [hat, hbyte]

end Frames

section Steps

variable {x : Exchange} {c u : Config} {n : BitVec 16} {buf : Mem} {s : State}
  {pending : List Mem}

theorem takes_wait {pc next : Pc} (hpc : (pc = .waitEvent ∧ next = .getBytes) ∨
      (pc = .waitData ∧ next = .getData))
    (h : Takes step ⟨pc, n, buf, s, pending⟩ .app u) :
    s.cc3000IsReady = 1 ∧ u = ⟨next, n, buf, s, pending⟩ := by
  unfold Takes step at h
  rcases hpc with ⟨rfl, rfl⟩ | ⟨rfl, rfl⟩
  all_goals
    simp only [Option.ite_none_right_eq_some, Option.some.injEq] at h
    exact ⟨h.1, h.2.symm⟩

theorem takes_getBytes (h : Takes step ⟨.getBytes, n, buf, s, pending⟩ .app u) :
    u = ⟨.waitData, (s.returnBuffer 4).setWidth 16, buf,
      if (s.returnBuffer 4).toNat > 0 then
        { s with desiredState := s.desiredState + 1, expect := hciDataRecv }
      else s, pending⟩ := by
  unfold Takes step at h
  simp only [Option.some.injEq, val_cc3000GetRecvBytes] at h
  exact h.symm

theorem takes_getData (h : Takes step ⟨.getData, n, buf, s, pending⟩ .app u) :
    u = ⟨.done, n, (cc3000GetRecvData s buf (n.setWidth 8)).val, s, pending⟩ := by
  unfold Takes step at h
  simp only [Option.some.injEq] at h
  exact h.symm

theorem takes_deliver {pc : Pc} (h : Takes step ⟨pc, n, buf, s, pending⟩ .deliver u) :
    ∃ data rest, pending = data :: rest ∧ u = ⟨pc, n, buf, handle data s, rest⟩ := by
  unfold Takes step at h
  cases pending with
  | nil => exact absurd h (by simp)
  | cons data rest =>
    simp only [Option.some.injEq] at h
    exact ⟨data, rest, rfl, h.symm⟩

theorem not_takes_deliver {pc : Pc} : ¬ Takes step ⟨pc, n, buf, s, []⟩ .deliver u := by
  intro h
  obtain ⟨data, rest, hpending, -⟩ := takes_deliver h
  exact absurd hpending (by simp)

/-- Reading the data copies the payload to the caller's buffer. -/
theorem holds_getData (hn : n.toNat = x.payload.length) (hsize : s.returnBuffer 0 = 24)
    (hdata : Holds s.returnBuffer 27 x.payload) :
    Holds (cc3000GetRecvData s buf (n.setWidth 8)).val 0 x.payload := by
  obtain ⟨hlow, hhigh⟩ := x.payload_length
  have hlen : (n.setWidth 8).toNat = x.payload.length := by
    rw [BitVec.toNat_setWidth, hn]
    omega
  have hoffset : (s.returnBuffer 0 + 3).toNat = 27 := by
    rw [hsize]
    rfl
  intro i hi
  have hbyte := hdata i hi
  have hat : 0 + i + 27 = 27 + i := by omega
  have hne : 0 + i ≠ x.payload.length := by omega
  rw [val_cc3000GetRecvData, hlen, hoffset]
  dsimp only
  rw [if_neg hne, overlay_lt _ _ (by omega), hat, hbyte]

theorem afterCount_app (c u : Config) : AfterCount c .app u := fun hl => absurd hl (by simp)

theorem frameOpcode_recvData (x : Exchange) : frameOpcode x.recvData = some hciDataRecv :=
  frameOpcode_data (holds_recvData x)

/-- Before the event the application waits. -/
theorem step_requested {l : Label} (h : Awaits hciEvntRecv s)
    (hstep : Takes step ⟨.waitEvent, n, buf, s, [x.eventData, x.recvData]⟩ l u) :
    AfterCount ⟨.waitEvent, n, buf, s, [x.eventData, x.recvData]⟩ l u ∧ OnTime x u := by
  have hop : frameOpcode x.eventData = some hciEvntRecv := frameOpcode_event (holds_eventData x)
  cases l with
  | app =>
    obtain ⟨hready, -⟩ := takes_wait (Or.inl ⟨rfl, rfl⟩) hstep
    exact absurd hready h.not_ready
  | deliver =>
    obtain ⟨data, rest, hpending, rfl⟩ := takes_deliver hstep
    obtain ⟨rfl, rfl⟩ := List.cons.inj hpending
    refine ⟨fun _ hone => absurd hone (by simp), ?_⟩
    exact .answered _ _ _ _ (Or.inl rfl) (h.handle hop) (returnBuffer_event x s)

/-- Reading the count of the event makes the driver wait for the data frame. -/
theorem step_count (hidle : Idle s)
    (hcount : s.returnBuffer 4 = BitVec.ofNat 8 x.payload.length)
    (hstep : Takes step ⟨.getBytes, n, buf, s, [x.recvData]⟩ .app u) : OnTime x u := by
  have hu := takes_getBytes hstep
  obtain ⟨hlow, hhigh⟩ := x.payload_length
  have hnat : (s.returnBuffer 4).toNat = x.payload.length := by
    rw [hcount, BitVec.toNat_ofNat]
    omega
  rw [if_pos (by omega)] at hu
  subst hu
  refine .counted _ _ _ hidle.awaits_data ?_
  rw [BitVec.toNat_setWidth, hnat]
  omega

/-- The data frame is too early before the count is read. -/
theorem step_tooEarly {pc : Pc} (hpc : pc = .waitEvent ∨ pc = .getBytes) (hidle : Idle s)
    (hstep : Takes step ⟨pc, n, buf, s, [x.recvData]⟩ .deliver u) :
    ¬ AfterCount ⟨pc, n, buf, s, [x.recvData]⟩ .deliver u ∧ Early x u := by
  obtain ⟨data, rest, hpending, rfl⟩ := takes_deliver hstep
  obtain ⟨rfl, rfl⟩ := List.cons.inj hpending
  refine ⟨?_, .overwritten _ _ _ _ hpc (hidle.handle (frameOpcode_recvData x) (by decide))⟩
  intro hafter
  obtain ⟨hwait, hget⟩ := hafter rfl rfl
  rcases hpc with rfl | rfl
  · exact hwait rfl
  · exact hget rfl

/-- After the count is read the application waits for it. -/
theorem step_counted {l : Label} (h : Awaits hciDataRecv s) (hn : n.toNat = x.payload.length)
    (hstep : Takes step ⟨.waitData, n, buf, s, [x.recvData]⟩ l u) :
    AfterCount ⟨.waitData, n, buf, s, [x.recvData]⟩ l u ∧ OnTime x u := by
  cases l with
  | app =>
    obtain ⟨hready, -⟩ := takes_wait (Or.inr ⟨rfl, rfl⟩) hstep
    exact absurd hready h.not_ready
  | deliver =>
    obtain ⟨data, rest, hpending, rfl⟩ := takes_deliver hstep
    obtain ⟨rfl, rfl⟩ := List.cons.inj hpending
    obtain ⟨hsize, hdata⟩ := returnBuffer_data x s
    refine ⟨fun _ _ => ⟨by simp, by simp⟩, ?_⟩
    exact .received _ _ _ _ (Or.inl rfl) (h.handle (frameOpcode_recvData x)) hn hsize hdata

/-- One step of an exchange that is on time either keeps it so, or is the data frame
coming before the count is read. -/
theorem OnTime.step {l : Label} (h : OnTime x c) (hstep : Takes step c l u) :
    (AfterCount c l u ∧ OnTime x u) ∨ (¬ AfterCount c l u ∧ Early x u) := by
  cases h with
  | requested n buf s hawaits => exact Or.inl (step_requested hawaits hstep)
  | answered pc n buf s hpc hidle hcount =>
    cases l with
    | app =>
      refine Or.inl ⟨afterCount_app _ _, ?_⟩
      rcases hpc with rfl | rfl
      · obtain ⟨-, rfl⟩ := takes_wait (Or.inl ⟨rfl, rfl⟩) hstep
        exact .answered _ _ _ _ (Or.inr rfl) hidle hcount
      · exact step_count hidle hcount hstep
    | deliver => exact Or.inr (step_tooEarly hpc hidle hstep)
  | counted n buf s hawaits hn => exact Or.inl (step_counted hawaits hn hstep)
  | received pc n buf s hpc hidle hn hsize hdata =>
    cases l with
    | app =>
      refine Or.inl ⟨afterCount_app _ _, ?_⟩
      rcases hpc with rfl | rfl
      · obtain ⟨-, rfl⟩ := takes_wait (Or.inr ⟨rfl, rfl⟩) hstep
        exact .received _ _ _ _ (Or.inr rfl) hidle hn hsize hdata
      · have hu := takes_getData hstep
        subst hu
        exact .finished _ _ _ hn (holds_getData hn hsize hdata)
    | deliver => exact absurd hstep not_takes_deliver
  | finished n buf s hn hbuf =>
    cases l with
    | app => exact absurd hstep (by simp [Takes, ReceiveExchange.step])
    | deliver => exact absurd hstep not_takes_deliver

/-- Once the data frame came too early no step repairs it. -/
theorem Early.step {l : Label} (h : Early x c) (hstep : Takes step c l u) : Early x u := by
  cases h with
  | overwritten pc n buf s hpc hidle =>
    cases l with
    | app =>
      rcases hpc with rfl | rfl
      · obtain ⟨-, rfl⟩ := takes_wait (Or.inl ⟨rfl, rfl⟩) hstep
        exact .overwritten _ _ _ _ (Or.inr rfl) hidle
      · have hu := takes_getBytes hstep
        by_cases hpos : (s.returnBuffer 4).toNat > 0
        · rw [if_pos hpos] at hu
          subst hu
          exact .stuck _ _ _ hidle.awaits_data
        · have hzero : s.returnBuffer 4 = 0#8 := BitVec.eq_of_toNat_eq (by simpa using hpos)
          rw [if_neg hpos, hzero] at hu
          subst hu
          exact .nothing _ _ _ (Or.inl rfl) hidle
    | deliver => exact absurd hstep not_takes_deliver
  | stuck n buf s hawaits =>
    cases l with
    | app =>
      obtain ⟨hready, -⟩ := takes_wait (Or.inr ⟨rfl, rfl⟩) hstep
      exact absurd hready hawaits.not_ready
    | deliver => exact absurd hstep not_takes_deliver
  | nothing pc buf s hpc hidle =>
    cases l with
    | app =>
      rcases hpc with rfl | rfl | rfl
      · obtain ⟨-, rfl⟩ := takes_wait (Or.inr ⟨rfl, rfl⟩) hstep
        exact .nothing _ _ _ (Or.inr (Or.inl rfl)) hidle
      · have hu := takes_getData hstep
        subst hu
        exact .nothing _ _ _ (Or.inr (Or.inr rfl)) hidle
      · exact absurd hstep (by simp [Takes, ReceiveExchange.step])
    | deliver => exact absurd hstep not_takes_deliver

theorem OnTime.served (h : OnTime x c) : x.Served c := by
  cases h with
  | requested n buf s hawaits => exact ⟨fun hpc => absurd hpc (by simp), fun h => by simp at h⟩
  | answered pc n buf s hpc hidle hcount =>
    refine ⟨fun hdone => ?_, fun h => absurd h.1 (by simp)⟩
    rcases hpc with rfl | rfl
    · exact absurd hdone (by simp)
    · exact absurd hdone (by simp)
  | counted n buf s hawaits hn =>
    exact ⟨fun hpc => absurd hpc (by simp), fun h => absurd h.1 (by simp)⟩
  | received pc n buf s hpc hidle hn hsize hdata =>
    refine ⟨fun hdone => ?_, fun h => ?_⟩
    · rcases hpc with rfl | rfl
      · exact absurd hdone (by simp)
      · exact absurd hdone (by simp)
    · exact absurd (hidle.ready.symm.trans h.2.2) (by decide)
  | finished n buf s hn hbuf => exact ⟨fun _ => ⟨hn, hbuf⟩, fun h => absurd h.2.1 (by simp)⟩

/-- An exchange that came too early and can go no further has failed. -/
theorem Early.not_served (h : Early x c) (hlast : ∀ l, ReceiveExchange.step c l = none) :
    ¬ x.Served c := by
  intro hserved
  have hnone := hlast .app
  cases h with
  | overwritten pc n buf s hpc hidle =>
    rcases hpc with rfl | rfl
    · simp [ReceiveExchange.step, hidle.ready] at hnone
    · simp [ReceiveExchange.step] at hnone
  | stuck n buf s hawaits =>
    have hzero : s.cc3000IsReady = 0 := by
      unfold State.cc3000IsReady
      exact if_neg (mt (State.cc3000IsReady_eq_one s).mpr hawaits.not_ready)
    exact hserved.notStuck ⟨rfl, rfl, hzero⟩
  | nothing pc buf s hpc hidle =>
    rcases hpc with rfl | rfl | rfl
    · simp [ReceiveExchange.step, hidle.ready] at hnone
    · simp [ReceiveExchange.step] at hnone
    · have hlen : (0 : BitVec 16).toNat = x.payload.length := (hserved.finished rfl).1
      have hpos := x.payload_length.1
      have hzero : (0 : BitVec 16).toNat = 0 := rfl
      omega

end Steps

/-- The phase a run ends in tells whether the data frame came on time. -/
theorem run_phase {x : Exchange} {c t : Config} {ls : List Label}
    (hrun : Run (Takes step) c ls t) (hc : OnTime x c) :
    (Along (Takes step) AfterCount c ls ∧ OnTime x t) ∨
      (¬ Along (Takes step) AfterCount c ls ∧ Early x t) :=
  hrun.two_phases (fun _ _ _ h hs => h.step hs) (fun _ _ _ h hs => h.step hs) hc

theorem onTime_start (x : Exchange) (s : State) (hready : s.cc3000IsReady = 1) (buf : Mem) :
    OnTime x (x.start s buf) := by
  rw [State.cc3000IsReady_eq_one] at hready
  refine .requested 0 buf _ ⟨?_, ?_⟩
  · rw [HciFrames.Command.exec_prog]
    change s.desiredState + 1 = s.currentState + 1
    rw [hready]
  · rw [HciFrames.Command.exec_prog]
    rfl

/-- For every exchange and every interleaving: as long as the data frame comes after the
count is read, every state reached is served; and an exchange that has come to its end
is served only then. -/
theorem served_along (x : Exchange) (s : State) (hready : s.cc3000IsReady = 1) (buf : Mem)
    (ls : List Label) (t : Config) (hrun : Run (Takes step) (x.start s buf) ls t) :
    (Along (Takes step) AfterCount (x.start s buf) ls → x.Served t) ∧
    ((∀ l, step t l = none) →
      (x.Served t ↔ Along (Takes step) AfterCount (x.start s buf) ls)) := by
  rcases run_phase hrun (onTime_start x s hready buf) with ⟨halong, hphase⟩ | ⟨halong, hphase⟩
  · exact ⟨fun _ => hphase.served, fun _ => ⟨fun _ => halong, fun _ => hphase.served⟩⟩
  · refine ⟨fun h => absurd h halong, fun hlast => ⟨fun hserved => ?_, fun h => ?_⟩⟩
    · exact absurd hserved (hphase.not_served hlast)
    · exact absurd h halong

/-- Four bytes received on socket 0; the second argument byte of the data frame is not
zero. -/
def fourBytes : Exchange where
  sd := 0
  len := 4
  flags := 0
  eventArgs := [0, 0, 0, 0, 4, 0, 0, 0, 0, 0, 0, 0]
  dataArgs := [0, 1, 0, 0, 0, 0, 0, 0, 0, 0, 0, 0, 0, 0, 0, 0, 0, 0, 0, 0, 0, 0, 0, 0]
  payload := [1, 2, 3, 4]
  staleEvent := fun _ => 0
  staleData := fun _ => 0
  event_length := by decide
  count := by decide
  data_length := rfl
  payload_length := by decide

def idleStart : Config := fourBytes.start (initial fun _ => 0) fun _ => 0

/-- The event, the wait and the count, then the data frame, the wait and the data. -/
def onTimeRun : List Label := [.deliver, .app, .app, .deliver, .app, .app]

theorem served_along_fourBytes :
    ∃ t, Run (Takes step) idleStart onTimeRun t ∧ (∀ l, step t l = none) ∧
      t.numBytes = 4 ∧ Holds t.buf 0 [1, 2, 3, 4] := by
  have hend : (after step idleStart onTimeRun).map (fun t => (t.pc, t.pending.length)) =
      some (.done, 0) := by decide
  obtain ⟨t, ht, hlast⟩ := Option.map_eq_some_iff.mp hend
  have hdone : t.pc = .done := congrArg Prod.fst hlast
  have hpending : t.pending = [] := List.length_eq_zero_iff.mp (congrArg Prod.snd hlast)
  have hrun : Run (Takes step) idleStart onTimeRun t := run_of_after ht
  have halong : Along (Takes step) AfterCount idleStart onTimeRun := by decide
  have hserved := (served_along fourBytes _ (by decide) _ _ t hrun).1 halong
  obtain ⟨hn, hbuf⟩ := hserved.finished hdone
  refine ⟨t, hrun, fun l => ?_, BitVec.eq_of_toNat_eq hn, hbuf⟩
  cases l with
  | app => simp [step, hdone]
  | deliver => simp [step, hpending]

/-- Both frames handled before the count is read: the application waits forever for a
data frame that has come and gone. -/
theorem exchange_stuck :
    (initial fun _ => 0).cc3000IsReady = 1 ∧
    ∃ t, Run (Takes step) idleStart [.deliver, .deliver, .app, .app] t ∧
      t.pending = [] ∧ t.pc = .waitData ∧ t.st.cc3000IsReady = 0 := by
  refine ⟨by decide, _, Run.cons rfl (Run.cons rfl (Run.cons rfl (Run.cons rfl (Run.nil _)))),
    rfl, rfl, ?_⟩
  decide

end Cc3000Async.ReceiveExchange
