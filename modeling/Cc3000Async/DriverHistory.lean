import Cc3000Async.LastWrites
import Cc3000Async.ReceiveBounds
import Cc3000Async.Requests
import Cc3000Async.SocketResponses

/-!
What the driver remembers of a device, as a function of its whole history. Calls and frames
come in any order; each flag of `cc3000_state`, the address, the close flag and every byte
of the return buffer is a register that some of them write.
-/
namespace Cc3000Async.DriverHistory

open ByteMemory LabelledRuns LastWrites TracedAccess Opcodes DriverState HciFrames EventHandler
open ReceiveBounds SocketOperations SocketResponses Requests

/-- The calls that may change the driver's variables, and the frames that are handled. -/
inductive Label
  | request (r : Request)
  | send (sd : Byte) (buf : Mem) (len : BitVec 16) (flags : Byte)
  | getBufferSize
  | getRecvBytes
  | getAccecpt (sd : Byte) (addr : SockAddr) (evtRet : Mem)
  | stop
  | frame (data : Mem)

/-- Anything comes at any time; a frame keeps inside the buffers. -/
def step (s : State) : Label → Option State
  | .request r => r.prog.map fun p => p.exec s
  | .send sd buf len flags => some (cc3000Send sd buf len flags s).2
  | .getBufferSize => some (cc3000GeneralGetBufferSize s).val.2
  | .getRecvBytes => some (cc3000GetRecvBytes s).val.2
  | .getAccecpt sd addr evtRet => some (cc3000GetAccecpt sd addr evtRet s).val.state
  | .stop => some (cc3000Stop.exec s)
  | .frame data => if AccessesFit data then some (handle data s) else none

structure Memory where
  state : Cc3000State
  closeSocket : Byte
  returnBuffer : Mem

def memory (s : State) : Memory := ⟨s.state, s.closeSocket, s.returnBuffer⟩

/-- A start clears the flags, but neither the address nor the close flag; reading the buffer
size sets its flag, and a frame does what the handler does. Nothing else is remembered. -/
def Memory.after : Label → Memory → Memory
  | .request (.start _), m =>
      { m with
        state :=
          { m.state with
            connected := 0, dhcpComplete := 0, initStatus := 0, wlanStatus := 0
            smartConfigComplete := 0 } }
  | .getBufferSize, m =>
      { m with
        state := { m.state with initStatus := m.state.initStatus ||| cc3000IsBufferSize } }
  | .frame data, m =>
      { state := linkAfter data m.state
        closeSocket := closeAfter data m.closeSocket
        returnBuffer := copyReturn data m.returnBuffer }
  | _, m => m

theorem memory_action {a : Action} (h : a ≠ .resetState) (s : State) :
    memory (a.exec s) = memory s := by
  cases a with
  | sendPadding =>
    simp only [Action.exec]
    split <;> rfl
  | setSocketActiveStatus sd status =>
    simp only [Action.exec, State.setSocketActiveStatus]
    split <;> rfl
  | resetState => exact absurd rfl h
  | _ => rfl

theorem memory_setSocketActiveStatus (sd : Byte) (status : BitVec 32) (s : State) :
    memory (s.setSocketActiveStatus sd status) = memory s :=
  memory_action (a := .setSocketActiveStatus sd status) nofun s

theorem memory_exec {p : Prog} (h : Action.resetState ∉ p) (s : State) :
    memory (p.exec s) = memory s := by
  induction p generalizing s with
  | nil => rfl
  | cons a p ih =>
    rw [List.mem_cons, not_or] at h
    rw [Prog.exec_cons, ih h.2, memory_action (Ne.symm h.1)]

theorem resetState_not_mem_calls (calls : List SendCall) :
    Action.resetState ∉ callsProg calls := by
  rw [callsProg_eq]
  simp

theorem resetState_not_mem (r : Request) (hr : ∀ patchesRequest, r ≠ .start patchesRequest)
    {p : Prog} (hp : r.prog = some p) : Action.resetState ∉ p := by
  cases hc : r.command with
  | some c =>
    rw [prog_of_command r c hc, Option.some.injEq] at hp
    have hcalls := resetState_not_mem_calls c.calls
    have hafter : Action.resetState ∉ r.after := by
      cases r <;> simp [Request.after]
    rw [← hp]
    simp [Command.prog, cc3000HciStartCommand, cc3000SpiStartSend, cc3000HciEndCommand, hcalls,
      hafter]
  | none =>
    obtain ⟨patchesRequest, rfl⟩ | rfl | ⟨mdnsEnabled, serviceName, rfl, -, rfl⟩ |
      ⟨profile, rfl, hknown⟩ := cases_of_command_none r p hp hc
    · exact absurd rfl (hr patchesRequest)
    · rw [← Option.some.inj hp]
      decide
    · exact List.not_mem_nil
    · have hargs := (profile.arguments_eq_none_iff).mpr hknown
      simp only [Request.prog, WlanOperations.cc3000WlanAddProfile, hargs, Option.some.injEq] at hp
      rw [← hp]
      decide

theorem memory_send (sd : Byte) (buf : Mem) (len : BitVec 16) (flags : Byte) (s : State) :
    memory (cc3000Send sd buf len flags s).2 = memory s := by
  unfold cc3000Send
  split
  · rfl
  · refine memory_exec ?_ _
    simp only [List.mem_append, not_or]
    exact ⟨⟨by simp [cc3000HciStartData, cc3000SpiStartSend], resetState_not_mem_calls _⟩,
      by decide⟩

/-- The flags are cleared first; the rest of the start leaves them alone. -/
theorem memory_start (patchesRequest : Byte) (s : State) :
    memory ((cc3000Start patchesRequest).exec s) =
      (memory s).after (.request (.start patchesRequest)) := by
  have hrest : Action.resetState ∉ (cc3000Start patchesRequest).tail := by simp [cc3000Start]
  exact memory_exec hrest (Action.resetState.exec s)

theorem after_request {r : Request} (hr : ∀ patchesRequest, r ≠ .start patchesRequest)
    (m : Memory) : m.after (.request r) = m := by
  cases r with
  | start patchesRequest => exact absurd rfl (hr patchesRequest)
  | _ => rfl

theorem memory_step {s t : State} {l : Label} (hstep : Takes step s l t) :
    memory t = (memory s).after l := by
  cases l with
  | request r =>
    obtain ⟨p, hp, rfl⟩ := Option.map_eq_some_iff.mp hstep
    by_cases hr : ∃ patchesRequest, r = .start patchesRequest
    · obtain ⟨patchesRequest, rfl⟩ := hr
      rw [← Option.some.inj hp]
      exact memory_start patchesRequest s
    · have hother := not_exists.mp hr
      rw [after_request hother]
      exact memory_exec (resetState_not_mem r hother hp) s
  | send sd buf len flags =>
    rw [← Option.some.inj hstep]
    exact memory_send sd buf len flags s
  | getBufferSize =>
    rw [← Option.some.inj hstep]
    rfl
  | getRecvBytes =>
    have ht := Option.some.inj hstep
    rw [val_cc3000GetRecvBytes] at ht
    rw [← ht]
    dsimp only
    split <;> rfl
  | getAccecpt sd addr evtRet =>
    rw [← Option.some.inj hstep, val_cc3000GetAccecpt]
    dsimp only
    split <;> exact memory_setSocketActiveStatus _ _ s
  | stop =>
    rw [← Option.some.inj hstep]
    rfl
  | frame data =>
    obtain ⟨-, ht⟩ := Option.ite_none_right_eq_some.mp hstep
    rw [← Option.some.inj ht]
    simp only [memory, handle_state, handle_closeSocket, handle_returnBuffer, Memory.after]

/-- A part of the memory that every label writes or leaves alone. -/
theorem reads_lastWrite {α : Type} (read : Memory → α) {write : Label → Option α}
    (h : ∀ l m, read (m.after l) = (write l).getD (read m)) {s t : State} {ls : List Label}
    (hrun : Run (Takes step) s ls t) :
    read (memory t) = lastWrite write (read (memory s)) ls := by
  have hwrites : Writes (Takes step) (fun s => read (memory s)) write := by
    intro s l t hstep
    change read (memory t) = _
    rw [memory_step hstep, h]
  exact read_of_run hwrites hrun

def connectedWrite : Label → Option Byte
  | .request (.start _) => some 0
  | .frame data =>
      if IsEvent data hciEvntWlanUnsolConnect then some 1
      else if IsEvent data hciEvntWlanUnsolDisconnect then some 0
      else none
  | _ => none

def dhcpWrite : Label → Option Byte
  | .request (.start _) => some 0
  | .frame data => if IsEvent data hciEvntWlanUnsolDhcp then some 1 else none
  | _ => none

def ipWrite : Label → Option (Fin 4 → Byte)
  | .frame data =>
      if IsEvent data hciEvntWlanUnsolDhcp then some ![data 5, data 6, data 7, data 8] else none
  | _ => none

def closeWrite : Label → Option Byte
  | .frame data => if IsEvent data hciEvntBsdTcpCloseWait then some 1 else none
  | _ => none

/-- The bit of `init_status` for the buffer size. -/
def bufferSizeWrite : Label → Option Bool
  | .request (.start _) => some false
  | .getBufferSize => some true
  | _ => none

def returnWrite (i : ℕ) : Label → Option Byte
  | .frame data =>
      (copyBlock data).bind fun block => if i < block.2 then some (data (i + block.1)) else none
  | _ => none

theorem connected_after (l : Label) (m : Memory) :
    (m.after l).state.connected = (connectedWrite l).getD m.state.connected := by
  cases l with
  | request r => cases r <;> rfl
  | frame data =>
    simp only [Memory.after, linkAfter, connectedWrite]
    split_ifs <;> rfl
  | _ => rfl

theorem dhcp_after (l : Label) (m : Memory) :
    (m.after l).state.dhcpComplete = (dhcpWrite l).getD m.state.dhcpComplete ∧
      (m.after l).state.ip = (ipWrite l).getD m.state.ip := by
  cases l with
  | request r => cases r <;> exact ⟨rfl, rfl⟩
  | frame data =>
    simp only [Memory.after, dhcpWrite, ipWrite]
    by_cases hdhcp : IsEvent data hciEvntWlanUnsolDhcp
    · rw [linkAfter_of_dhcp hdhcp, if_pos hdhcp, if_pos hdhcp]
      exact ⟨rfl, rfl⟩
    · rw [if_neg hdhcp, if_neg hdhcp]
      obtain ⟨-, hlink⟩ | ⟨-, hlink⟩ | ⟨hevent, -⟩ | ⟨-, -, -, hlink⟩ := linkAfter_cases data m.state
      · rw [hlink]
        exact ⟨rfl, rfl⟩
      · rw [hlink]
        exact ⟨rfl, rfl⟩
      · exact absurd hevent hdhcp
      · rw [hlink]
        exact ⟨rfl, rfl⟩
  | _ => exact ⟨rfl, rfl⟩

theorem close_after (l : Label) (m : Memory) :
    (m.after l).closeSocket = (closeWrite l).getD m.closeSocket := by
  cases l with
  | request r => cases r <;> rfl
  | frame data =>
    simp only [Memory.after, closeAfter, closeWrite]
    split_ifs <;> rfl
  | _ => rfl

theorem bufferSize_after (l : Label) (m : Memory) :
    (m.after l).state.initStatus.getLsbD 1 =
      (bufferSizeWrite l).getD (m.state.initStatus.getLsbD 1) := by
  cases l with
  | request r =>
    cases r with
    | start patchesRequest => exact BitVec.getLsbD_zero
    | _ => rfl
  | frame data =>
    simp only [Memory.after, linkAfter, bufferSizeWrite]
    split_ifs <;> rfl
  | getBufferSize =>
    have hbit : cc3000IsBufferSize.getLsbD 1 = true := by decide
    simp [Memory.after, bufferSizeWrite, hbit]
  | _ => rfl

theorem return_after (i : ℕ) (l : Label) (m : Memory) :
    (m.after l).returnBuffer i = (returnWrite i l).getD (m.returnBuffer i) := by
  cases l with
  | request r => cases r <;> rfl
  | frame data =>
    simp only [Memory.after, copyReturn, returnWrite]
    cases copyBlock data with
    | none => rfl
    | some block =>
      simp only [overlay, Option.bind_some]
      split_ifs <;> rfl
  | _ => rfl

section Runs

variable {s t : State} {ls : List Label}

theorem dhcp_of_run (hrun : Run (Takes step) s ls t) :
    t.state.dhcpComplete = lastWrite dhcpWrite s.state.dhcpComplete ls ∧
      t.state.ip = lastWrite ipWrite s.state.ip ls :=
  ⟨reads_lastWrite (fun m => m.state.dhcpComplete) (fun l m => (dhcp_after l m).1) hrun,
    reads_lastWrite (fun m => m.state.ip) (fun l m => (dhcp_after l m).2) hrun⟩

theorem close_of_run (hrun : Run (Takes step) s ls t) :
    t.closeSocket = lastWrite closeWrite s.closeSocket ls :=
  reads_lastWrite Memory.closeSocket close_after hrun

end Runs

/-- For every run of calls and frames in any order, from any state: each flag, the address
and every byte of the return buffer holds what the last call or frame that writes it wrote. -/
theorem history_tells (s : State) (ls : List Label) (t : State)
    (hrun : Run (Takes step) s ls t) :
    t.state.connected = lastWrite connectedWrite s.state.connected ls ∧
    t.state.dhcpComplete = lastWrite dhcpWrite s.state.dhcpComplete ls ∧
    t.state.ip = lastWrite ipWrite s.state.ip ls ∧
    t.closeSocket = lastWrite closeWrite s.closeSocket ls ∧
    t.state.initStatus.getLsbD 1 =
      lastWrite bufferSizeWrite (s.state.initStatus.getLsbD 1) ls ∧
    ∀ i, t.returnBuffer i = lastWrite (returnWrite i) (s.returnBuffer i) ls :=
  ⟨reads_lastWrite (fun m => m.state.connected) connected_after hrun,
    (dhcp_of_run hrun).1, (dhcp_of_run hrun).2, close_of_run hrun,
    reads_lastWrite (fun m => m.state.initStatus.getLsbD 1) bufferSize_after hrun,
    fun i => reads_lastWrite (fun m => m.returnBuffer i) (return_after i) hrun⟩

/-- The address 192.168.0.7 is announced. -/
def addressEvent : Mem := fun i => [0x04, 0x10, 0x80, 4, 0, 7, 0, 168, 192].getD i 0

def addressed : List Label := [.request (.start 0), .frame addressEvent]

theorem history_tells_addressed :
    ∃ t, Run (Takes step) (initial fun _ => 0) addressed t ∧
      t.state.connected = lastWrite connectedWrite 0 addressed ∧
      t.state.dhcpComplete = lastWrite dhcpWrite 0 addressed ∧
      t.state.ip = lastWrite ipWrite (fun _ => 0) addressed ∧
      t.closeSocket = lastWrite closeWrite 0 addressed ∧
      t.state.initStatus.getLsbD 1 = lastWrite bufferSizeWrite false addressed ∧
      ∀ i, t.returnBuffer i = lastWrite (returnWrite i) 0 addressed := by
  have hrun : Run (Takes step) (initial fun _ => 0) addressed _ :=
    Run.cons rfl (Run.cons rfl (Run.nil _))
  exact ⟨_, hrun, history_tells _ addressed _ hrun⟩

theorem dhcpWrite_eq_one_iff (l : Label) :
    dhcpWrite l = some 1 ↔ ∃ data, l = .frame data ∧ IsEvent data hciEvntWlanUnsolDhcp := by
  cases l with
  | request r => cases r <;> simp [dhcpWrite]
  | frame data =>
    by_cases hdhcp : IsEvent data hciEvntWlanUnsolDhcp <;> simp [dhcpWrite, hdhcp]
  | _ => simp [dhcpWrite]

theorem dhcpWrite_eq_none_iff (l : Label) :
    dhcpWrite l = none ↔ (∀ patchesRequest, l ≠ .request (.start patchesRequest)) ∧
      ∀ data, l = .frame data → ¬ IsEvent data hciEvntWlanUnsolDhcp := by
  cases l with
  | request r => cases r <;> simp [dhcpWrite]
  | frame data =>
    by_cases hdhcp : IsEvent data hciEvntWlanUnsolDhcp <;> simp [dhcpWrite, hdhcp]
  | _ => simp [dhcpWrite]

/-- What writes the address writes its flag. -/
theorem ipWrite_of_dhcpWrite {l : Label} (h : dhcpWrite l = none) : ipWrite l = none := by
  obtain ⟨-, hframe⟩ := (dhcpWrite_eq_none_iff l).mp h
  cases l with
  | frame data => exact if_neg (hframe data rfl)
  | _ => rfl

theorem closeWrite_eq_iff (l : Label) (u : Byte) :
    closeWrite l = some u ↔
      u = 1 ∧ ∃ data, l = .frame data ∧ IsEvent data hciEvntBsdTcpCloseWait := by
  cases l with
  | frame data =>
    by_cases hclose : IsEvent data hciEvntBsdTcpCloseWait
    · simp [closeWrite, hclose, eq_comm]
    · simp [closeWrite, hclose]
  | _ => simp [closeWrite]

/-- What the main loop and the application go by. For every run from a state without an
address: there is one exactly when an announcement came after the last start, and it is that
of the last announcement; and the close flag is set exactly when a close was ever reported,
since nothing takes it back. -/
theorem address_known_iff (s : State) (hdhcp : s.state.dhcpComplete ≠ 1)
    (hclose : s.closeSocket ≠ 1) (ls : List Label) (t : State)
    (hrun : Run (Takes step) s ls t) :
    (t.state.dhcpComplete = 1 ↔
      ∃ before data after, ls = before ++ .frame data :: after ∧
        IsEvent data hciEvntWlanUnsolDhcp ∧
        (∀ l ∈ after, (∀ patchesRequest, l ≠ .request (.start patchesRequest)) ∧
          ∀ later, l = .frame later → ¬ IsEvent later hciEvntWlanUnsolDhcp) ∧
        t.state.ip = ![data 5, data 6, data 7, data 8]) ∧
    (t.closeSocket = 1 ↔ ∃ data, .frame data ∈ ls ∧ IsEvent data hciEvntBsdTcpCloseWait) := by
  obtain ⟨hflag, hip⟩ := dhcp_of_run hrun
  constructor
  · rw [hflag, lastWrite_eq_iff hdhcp]
    constructor
    · rintro ⟨before, l, after, rfl, hl, hafter⟩
      obtain ⟨data, rfl, hevent⟩ := (dhcpWrite_eq_one_iff l).mp hl
      refine ⟨before, data, after, rfl, hevent,
        fun j hj => (dhcpWrite_eq_none_iff j).mp (hafter j hj), ?_⟩
      have hwrite : ipWrite (.frame data) = some ![data 5, data 6, data 7, data 8] :=
        if_pos hevent
      rw [hip]
      exact lastWrite_of_write hwrite (fun j hj => ipWrite_of_dhcpWrite (hafter j hj)) _ before
    · rintro ⟨before, data, after, rfl, hevent, hafter, -⟩
      exact ⟨before, _, after, rfl, (dhcpWrite_eq_one_iff _).mpr ⟨data, rfl, hevent⟩,
        fun j hj => (dhcpWrite_eq_none_iff j).mpr (hafter j hj)⟩
  · rw [close_of_run hrun,
      lastWrite_eq_const_iff (fun l u hl => ((closeWrite_eq_iff l u).mp hl).1) hclose]
    constructor
    · rintro ⟨l, hmem, hl⟩
      obtain ⟨-, data, rfl, hevent⟩ := (closeWrite_eq_iff l 1).mp hl
      exact ⟨data, hmem, hevent⟩
    · rintro ⟨data, hmem, hevent⟩
      exact ⟨_, hmem, (closeWrite_eq_iff _ 1).mpr ⟨rfl, data, rfl, hevent⟩⟩

theorem address_known_iff_addressed :
    ∃ t, Run (Takes step) (initial fun _ => 0) addressed t ∧ t.state.dhcpComplete = 1 ∧
      ∃ before data after, addressed = before ++ .frame data :: after ∧
        IsEvent data hciEvntWlanUnsolDhcp ∧
        (∀ l ∈ after, (∀ patchesRequest, l ≠ .request (.start patchesRequest)) ∧
          ∀ later, l = .frame later → ¬ IsEvent later hciEvntWlanUnsolDhcp) ∧
        t.state.ip = ![data 5, data 6, data 7, data 8] := by
  have hrun : Run (Takes step) (initial fun _ => 0) addressed _ :=
    Run.cons rfl (Run.cons rfl (Run.nil _))
  refine ⟨_, hrun, rfl, ?_⟩
  exact (address_known_iff (initial fun _ => 0) (by decide) (by decide) addressed _ hrun).1.mp rfl

end Cc3000Async.DriverHistory
