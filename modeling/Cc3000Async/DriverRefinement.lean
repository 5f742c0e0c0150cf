import Cc3000Async.ArgumentLengths
import Cc3000Async.DeviceSession
import Cc3000Async.DriverHistory
import Cc3000Async.LinkRefinement
import Cc3000Async.OperationsArrive
import Cc3000Async.SocketStatus

/-!
The whole driver as a refinement. A station is what the application may think of when it
uses the driver: the operations it has asked for, the answers that are due, the connection,
the buffers it may fill, the last block handed over and the sockets it has. The bus, the
receive buffer and the variables of the driver are unknown to it; the driver follows it
through every sequence of calls and receptions.
-/
namespace Cc3000Async.DriverRefinement

open ByteMemory LabelledRuns Opcodes DriverState HciFrames EventHandler SpiReceive ServiceLoop
open SocketOperations SocketResponses Requests ArgumentLengths ArgumentBlocks BusTransactions
open DeviceCommands InterruptInterleaving OperationsArrive LinkRefinement
open SocketStatus (SocketMap)

/-- What may happen: the calls that change something, and the two ways a frame is received,
by the interrupt and by the main loop. -/
inductive Act
  | request (r : Request)
  | send (sd : Byte) (buf : Mem) (len : BitVec 16) (flags : Byte)
  | getBufferSize
  | getRecvBytes
  | getAccecpt (sd : Byte)
  | stop
  | receive (f : Frame)
  | service (f : Frame)

/-- What the frames have told, the answers that were ever due, what was read of the buffers,
the sockets, and what the device was asked to do. -/
structure Station where
  link : Link
  requested : ℕ
  bufferLength : BitVec 16
  sizeKnown : Bool
  sockets : SocketMap
  operations : List Operation

namespace Station

def returned (m : Station) (i : ℕ) : Byte := m.link.returned.getD i 0

def await (m : Station) (op : BitVec 16) : Station :=
  { m with link := { m.link with pending := some op }, requested := m.requested + 1 }

def perform (m : Station) (o : Operation) : Station :=
  { m with operations := m.operations ++ [o] }

/-- What a request does besides asking: the start forgets the connection, and a socket that
is closed is not active. -/
def mark (m : Station) : Request → Station
  | .start _ =>
      { m with
        link := { m.link with connected := false, address := none }
        sizeKnown := false }
  | .socketClose sd => { m with sockets := m.sockets.write sd.toNat .inactive }
  | _ => m

def awaited : Request → Option (BitVec 16)
  | .start _ => some hciCmndSimpleLinkStart
  | .generalReqBufferSize => some hciCmndReadBufferSize
  | r => r.command.map Command.expected

/-- A request asks for an operation and waits for the answer, or is refused. -/
def request (m : Station) (r : Request) : Station :=
  match asked r, awaited r with
  | some o, some op => ((m.mark r).await op).perform o
  | _, _ => m

def step (m : Station) : Act → Station
  | .request r => m.request r
  | .send sd buf len flags =>
      if m.link.credits % 256 = 0 then m
      else
        { m with link := { m.link with credits := m.link.credits - 1 } }.perform
          (.send sd.toNat flags.toNat (bytesFrom buf len.toNat))
  | .getBufferSize =>
      { m with
        link := { m.link with credits := (m.returned 0).toNat }
        bufferLength := word16 (m.returned 2) (m.returned 1)
        sizeKnown := true }
  | .getRecvBytes => if (m.returned 4).toNat > 0 then m.await hciDataRecv else m
  | .getAccecpt sd =>
      { m with
        sockets := m.sockets.step (.getAccecpt sd
          (word32 (m.returned 7) (m.returned 6) (m.returned 5) (m.returned 4))) }
  | .stop => m
  | .receive f => { m with link := m.link.receive f }
  | .service f => { m with link := (m.link.receive f).receive f }

/-- A request has a defined behaviour and lengths that fit, a send leaves room for its
headers, what is read of an answer was in it, and the device sends proper frames. -/
def Allows (m : Station) : Act → Prop
  | .request r => Readable r ∧ ∃ p, r.prog = some p
  | .send _ _ len _ => 5 + 16 + len.toNat ≤ 65535
  | .getBufferSize => 3 ≤ m.link.returned.length
  | .getRecvBytes => 5 ≤ m.link.returned.length
  | .getAccecpt _ => 8 ≤ m.link.returned.length
  | .stop => True
  | .receive f => f.Proper
  | .service f => f.Proper

def Moves (m : Station) (l : Act) (n : Station) : Prop := m.Allows l ∧ n = m.step l

end Station

/-- The driver does the same. -/
def Step (s : State) (l : Act) (t : State) : Prop :=
  match l with
  | .request r => ∃ p, r.prog = some p ∧ t = p.exec s
  | .send sd buf len flags => t = (cc3000Send sd buf len flags s).2
  | .getBufferSize => t = (cc3000GeneralGetBufferSize s).val.2
  | .getRecvBytes => t = (cc3000GetRecvBytes s).val.2
  | .getAccecpt sd => ∃ addr evtRet, t = (cc3000GetAccecpt sd addr evtRet s).val.state
  | .stop => t = cc3000Stop.exec s
  | .receive f => ∃ reply, Holds reply 0 (encode f) ∧
      t = (cc3000SpiReceive (arrives reply s)).val.2
  | .service f => ∃ reply, Holds reply 0 (encode f) ∧ t = (service (arrives reply s)).val.2

def Performed (s : State) (os : List Operation) : Prop :=
  ∃ ms, Carries s.bus ms ∧ ms.map readMessage = os.map some

/-- The driver's variables show the station. -/
structure Tells (s : State) (m : Station) : Prop where
  link : LinkRefinement.Shows s m.link
  requested : s.desiredState = BitVec.ofNat 32 m.requested
  bufferLength : s.bufferLength = m.bufferLength
  sizeKnown : s.state.initStatus = if m.sizeKnown then cc3000IsBufferSize else 0
  sockets : SocketStatus.Shows s.socketActiveStatus m.sockets

structure Follows (s : State) (m : Station) : Prop extends Tells s m where
  performed : Performed s m.operations

def actOf : Call → Act
  | .request r => .request r
  | .send sd buf len flags => .send sd buf len flags
  | .stop => .stop

section Requests

variable {r : Request} {p : Prog} {s : State}

/-- What is streamed is as long as declared when the device can read it. -/
theorem exact_of_readable {c : Command} (hc : r.command = some c) (hreadable : Readable r) :
    (streamed c.calls).length = c.argsLength.toNat := by
  rw [ArgumentLengths.streamed_length]
  cases r with
  | start patchesRequest => simp [Request.command] at hc
  | generalReqBufferSize => simp [Request.command] at hc
  | setsockopt sd level optname optval optlen =>
    rw [← Option.some.inj hc, setsockopt_iff]
    rcases hreadable with rfl | rfl | rfl
    · exact Or.inr (Or.inr rfl)
    · exact Or.inl rfl
    · exact Or.inr (Or.inl rfl)
  | reqSelect nfds readsds writesds exceptsds timeout =>
    rw [← Option.some.inj hc]
    exact reqSelect_size nfds readsds writesds exceptsds timeout
  | socketMdnsAdvertise mdnsEnabled serviceName =>
    simp only [Request.command, Option.ite_none_left_eq_some, Option.some.injEq] at hc
    obtain ⟨hshort, rfl⟩ := hc
    exact mdnsCommand_size mdnsEnabled serviceName (Nat.not_lt.mp hshort)
  | wlanConnect ssid secType key =>
    cases key with
    | none => simp [Request.command, WlanOperations.cc3000WlanConnect] at hc
    | some key =>
      have hfits : 28 + ssid.strlen + key.strlen ≤ 255 := hreadable
      rw [wlanConnect_iff ssid key secType c hc]
      omega
  | wlanAddProfile profile =>
    obtain ⟨-, hwep, hfits⟩ := hreadable
    rw [addProfile_iff profile c hc]
    unfold ProfileLayout.argumentTotal at hfits
    unfold ProfileFits
    by_cases hunsec : profile.ulSecType = WlanOperations.wlanSecUnsec
    · rw [if_pos hunsec] at hfits ⊢
      omega
    · rw [if_neg hunsec, if_neg hwep] at hfits ⊢
      omega
  | _ =>
    rw [← Option.some.inj hc]
    rfl

/-- A request that the device can read is proper, if the interrupt is off. -/
theorem proper_of_readable (hp : r.prog = some p) (hreadable : Readable r) (s : State) :
    Call.Proper (.request r) { s with interruptsEnabled := false } := by
  have hsupported : AtomicRequests.Supported r := by
    cases r with
    | wlanConnect ssid secType key =>
      rintro rfl
      exact absurd hp (by simp [Request.prog, Request.command, WlanOperations.cc3000WlanConnect])
    | wlanAddProfile profile => exact hreadable.1
    | _ => trivial
  have hexact := fun c hc => exact_of_readable (c := c) hc hreadable
  cases r with
  | start patchesRequest => rfl
  | _ => exact ⟨hsupported, hexact⟩

/-- A request that is asked for waits for one answer; one that is not does nothing. -/
theorem request_cases (hp : r.prog = some p) (hreadable : Readable r) :
    (p = [] ∧ asked r = none) ∨
      ∃ o op, asked r = some o ∧ Station.awaited r = some op ∧ op ≠ 0 ∧ Raises op p := by
  cases hc : r.command with
  | some c =>
    obtain ⟨o, ho⟩ := asked_of_command hc
    have hop : c.expected ≠ 0 := (armedOpcodes_spec _ (command_expected_mem r c hc)).1
    rw [prog_of_command r c hc, Option.some.injEq] at hp
    refine Or.inr ⟨o, c.expected, ho, ?_, hop, ?_⟩
    · cases r with
      | start patchesRequest => simp [Request.command] at hc
      | generalReqBufferSize => simp [Request.command] at hc
      | _ => simp only [Station.awaited, hc, Option.map_some]
    · rw [← hp]
      exact raises_command c r
  | none =>
    have hraises : ∀ op, .hciExpect op ∈ p → Raises op p := fun op hmem =>
      (DeviceSession.raises_of_mem hp hmem).2
    obtain ⟨patchesRequest, rfl⟩ | rfl | ⟨mdnsEnabled, serviceName, rfl, hlong, rfl⟩ |
      ⟨profile, rfl, hknown⟩ := cases_of_command_none r p hp hc
    · refine Or.inr ⟨_, _, rfl, rfl, by decide, hraises _ ?_⟩
      rw [← Option.some.inj hp]
      simp [cc3000Start]
    · refine Or.inr ⟨_, _, rfl, rfl, by decide, hraises _ ?_⟩
      rw [← Option.some.inj hp]
      simp [cc3000GeneralReqBufferSize]
    · exact Or.inl ⟨rfl, if_pos hlong⟩
    · exact absurd hreadable.1 hknown

end Requests

section Views

theorem exec_keeps {ν : Type} {view : State → ν} {p : Prog}
    (h : ∀ a ∈ p, ∀ s : State, view (a.exec s) = view s) (s : State) :
    view (p.exec s) = view s := by
  induction p generalizing s with
  | nil => rfl
  | cons a p ih =>
    rw [Prog.exec_cons, ih (fun b hb => h b (List.mem_cons_of_mem a hb)),
      h a List.mem_cons_self]

theorem setSocketActiveStatus_eq (sd : Byte) (status : BitVec 32) (s : State) :
    s.setSocketActiveStatus sd status =
      { s with socketActiveStatus := (s.setSocketActiveStatus sd status).socketActiveStatus } := by
  unfold State.setSocketActiveStatus
  split <;> rfl

theorem Action.exec_bufferLength (a : Action) (s : State) :
    (a.exec s).bufferLength = s.bufferLength := by
  cases a with
  | sendPadding =>
    simp only [Action.exec]
    split <;> rfl
  | setSocketActiveStatus sd status =>
    simp only [Action.exec, State.setSocketActiveStatus]
    split <;> rfl
  | _ => rfl

theorem Action.exec_socketActiveStatus {a : Action}
    (h : ∀ sd status, a ≠ .setSocketActiveStatus sd status) (s : State) :
    (a.exec s).socketActiveStatus = s.socketActiveStatus := by
  cases a with
  | sendPadding =>
    simp only [Action.exec]
    split <;> rfl
  | setSocketActiveStatus sd status => exact absurd rfl (h sd status)
  | _ => rfl

theorem setSocketActiveStatus_not_mem {r : Request} (hr : ∀ sd, r ≠ .socketClose sd) {p : Prog}
    (hp : r.prog = some p) (sd : Byte) (status : BitVec 32) :
    Action.setSocketActiveStatus sd status ∉ p := by
  rcases prog_cases r p hp with ⟨c, hc, rfl⟩ | ⟨patchesRequest, rfl⟩ | rfl | rfl | rfl
  · have hafter : r.after = [] := by
      cases r with
      | socketClose sd => exact absurd rfl (hr sd)
      | _ => rfl
    simp [hafter, Command.prog, cc3000HciStartCommand, cc3000SpiStartSend, callsProg_eq,
      cc3000HciEndCommand]
  · simp [cc3000Start]
  · simp [cc3000GeneralReqBufferSize, cc3000HciSendCommand, cc3000SpiStartSend,
      cc3000SpiFinishSend]
  · exact List.not_mem_nil
  · simp [cc3000HciEndCommand]

/-- The states agree in what the counter and the socket status are not. -/
structure Agree (t s : State) : Prop where
  expect : t.expect = s.expect
  currentState : t.currentState = s.currentState
  state : t.state = s.state
  closeSocket : t.closeSocket = s.closeSocket
  freeBuffers : t.freeBuffers = s.freeBuffers
  returnBuffer : t.returnBuffer = s.returnBuffer
  bufferLength : t.bufferLength = s.bufferLength

variable {s t u : State} {m : Station} {l : Link}

theorem Agree.symm (h : Agree t s) : Agree s t :=
  ⟨h.expect.symm, h.currentState.symm, h.state.symm, h.closeSocket.symm, h.freeBuffers.symm,
    h.returnBuffer.symm, h.bufferLength.symm⟩

theorem Agree.trans (h : Agree u t) (h' : Agree t s) : Agree u s :=
  ⟨h.expect.trans h'.expect, h.currentState.trans h'.currentState, h.state.trans h'.state,
    h.closeSocket.trans h'.closeSocket, h.freeBuffers.trans h'.freeBuffers,
    h.returnBuffer.trans h'.returnBuffer, h.bufferLength.trans h'.bufferLength⟩

theorem shows_of_agree (h : Agree t s) (hlink : LinkRefinement.Shows s l) :
    LinkRefinement.Shows t l := by
  refine ⟨h.expect.trans hlink.expect, hlink.nonzero, h.currentState.trans hlink.currentState,
    ?_, ?_, ?_, h.closeSocket.trans hlink.closing, h.freeBuffers.trans hlink.credits, ?_⟩
  · rw [h.state]
    exact hlink.connected
  · rw [h.state]
    exact hlink.address
  · rw [h.state]
    exact hlink.noAddress
  · rw [h.returnBuffer]
    exact hlink.returned

/-- Where the rest agrees, the counter and the socket status tell the difference. -/
theorem Tells.of_agree (h : Tells s m) (hagree : Agree t s) {n : ℕ} {w : SocketMap}
    (hdesired : t.desiredState = BitVec.ofNat 32 n)
    (hsockets : SocketStatus.Shows t.socketActiveStatus w) :
    Tells t { m with requested := n, sockets := w } := by
  refine ⟨shows_of_agree hagree h.link, hdesired, hagree.bufferLength.trans h.bufferLength, ?_,
    hsockets⟩
  rw [hagree.state]
  exact h.sizeKnown

end Views

section Steps

variable {s t : State} {m : Station}

/-- A driver that has asked for one more operation follows a station that has, whatever the
sockets are. -/
theorem Tells.ask (h : Tells s m) {op : BitVec 16} {w : SocketMap}
    (hrequested : Requested op s t) (hop : op ≠ 0)
    (hmemory : DriverHistory.memory t = DriverHistory.memory s)
    (hlength : t.bufferLength = s.bufferLength)
    (hsockets : SocketStatus.Shows t.socketActiveStatus w) (o : Operation) :
    Tells t (({ m with sockets := w }.await op).perform o) := by
  obtain ⟨hdesired, hcurrent, hexpect, hreturn, hfree⟩ := hrequested
  simp only [DriverHistory.memory, DriverHistory.Memory.mk.injEq] at hmemory
  obtain ⟨hstate, hclose, -⟩ := hmemory
  have hlink := h.link
  refine ⟨⟨hexpect, ?_, hcurrent.trans hlink.currentState, ?_, ?_, ?_,
    hclose.trans hlink.closing, hfree.trans hlink.credits, ?_⟩, ?_, hlength.trans h.bufferLength,
    ?_, hsockets⟩
  · exact fun hzero => hop (Option.some.inj hzero)
  · rw [hstate]
    exact hlink.connected
  · rw [hstate]
    exact hlink.address
  · rw [hstate]
    exact hlink.noAddress
  · rw [hreturn]
    exact hlink.returned
  · rw [hdesired, h.requested]
    exact (BitVec.ofNat_add m.requested 1).symm
  · rw [hstate]
    exact h.sizeKnown

/-- The start forgets the connection first. -/
theorem Tells.reset (h : Tells s m) (patchesRequest : Byte) :
    Tells (Action.resetState.exec s) (m.mark (.start patchesRequest)) :=
  ⟨⟨h.link.expect, h.link.nonzero, h.link.currentState, rfl,
      fun bytes hsome => absurd hsome.symm (Option.some_ne_none bytes),
      fun _ => rfl, h.link.closing, h.link.credits, h.link.returned⟩,
    h.requested, h.bufferLength, rfl, h.sockets⟩

theorem sockets_request (h : SocketStatus.Shows s.socketActiveStatus m.sockets) {r : Request}
    {p : Prog} (hp : r.prog = some p) :
    SocketStatus.Shows (p.exec s).socketActiveStatus (m.mark r).sockets := by
  by_cases hr : ∃ sd, r = .socketClose sd
  · obtain ⟨sd, rfl⟩ := hr
    have hstep : SocketStatus.Step s (.socketClose sd) (p.exec s) := by
      rw [← Option.some.inj hp]
      rfl
    exact SocketStatus.shows_step h hstep
  · have hnot := setSocketActiveStatus_not_mem (not_exists.mp hr) hp
    have hkeeps : (p.exec s).socketActiveStatus = s.socketActiveStatus :=
      exec_keeps (fun a ha => Action.exec_socketActiveStatus fun sd status heq =>
        hnot sd status (heq ▸ ha)) s
    have hsame : (m.mark r).sockets = m.sockets := by
      cases r with
      | socketClose sd => exact absurd ⟨sd, rfl⟩ hr
      | _ => rfl
    rw [hkeeps, hsame]
    exact h

theorem mark_of_not_start {r : Request} (hr : ∀ patchesRequest, r ≠ .start patchesRequest) :
    { m with sockets := (m.mark r).sockets } = m.mark r := by
  cases r with
  | start patchesRequest => exact absurd rfl (hr patchesRequest)
  | _ => rfl

theorem tells_request (h : Tells s m) {r : Request} {p : Prog} (hp : r.prog = some p)
    (hreadable : Readable r) : Tells (p.exec s) (m.request r) := by
  have hsockets := sockets_request h.sockets hp
  have hlength : (p.exec s).bufferLength = s.bufferLength :=
    exec_keeps (fun a _ => Action.exec_bufferLength a) s
  rcases request_cases hp hreadable with ⟨rfl, hnone⟩ | ⟨o, op, ho, hop, hnonzero, hraises⟩
  · rw [Station.request, hnone]
    exact h
  · rw [Station.request, ho, hop]
    have hdone := requested_of_raises hraises s
    by_cases hr : ∃ patchesRequest, r = .start patchesRequest
    · obtain ⟨patchesRequest, rfl⟩ := hr
      have hmemory : DriverHistory.memory (p.exec s) =
          DriverHistory.memory (Action.resetState.exec s) := by
        rw [← Option.some.inj hp]
        exact DriverHistory.memory_start patchesRequest s
      have hdone' : Requested op (Action.resetState.exec s) (p.exec s) :=
        ⟨hdone.desiredState, hdone.currentState, hdone.expect, hdone.returnBuffer,
          hdone.freeBuffers⟩
      exact (h.reset patchesRequest).ask hdone' hnonzero hmemory hlength hsockets o
    · have hmemory : DriverHistory.memory (p.exec s) = DriverHistory.memory s :=
        DriverHistory.memory_exec (DriverHistory.resetState_not_mem r (not_exists.mp hr) hp) s
      have hasked := h.ask hdone hnonzero hmemory hlength hsockets o
      rwa [mark_of_not_start (not_exists.mp hr)] at hasked

theorem Tells.credits_iff (h : Tells s m) : s.freeBuffers = 0#8 ↔ m.link.credits % 256 = 0 := by
  have hcredits : s.freeBuffers.toNat = m.link.credits % 256 := by
    rw [h.link.credits, BitVec.toNat_ofNat]
  rw [← hcredits]
  exact ⟨fun hzero => by rw [hzero]; rfl, fun hzero => BitVec.eq_of_toNat_eq hzero⟩

theorem tells_send (h : Tells s m) (sd : Byte) (buf : Mem) (len : BitVec 16) (flags : Byte) :
    Tells (cc3000Send sd buf len flags s).2 (m.step (.send sd buf len flags)) := by
  by_cases hfree : s.freeBuffers = 0#8
  · rw [cc3000Send, if_pos hfree, Station.step, if_pos (h.credits_iff.mp hfree)]
    exact h
  · have hpositive := mt h.credits_iff.mpr hfree
    have hspent : s.freeBuffers - 1 = BitVec.ofNat 8 (m.link.credits - 1) := by
      apply BitVec.eq_of_toNat_eq
      rw [h.link.credits, BitVec.toNat_sub, BitVec.toNat_ofNat, BitVec.toNat_ofNat]
      have hone : (1 : Byte).toNat = 1 := rfl
      omega
    rw [Station.step, if_neg hpositive, SendFrames.cc3000Send_of_free sd buf len flags s hfree]
    exact ⟨⟨h.link.expect, h.link.nonzero, h.link.currentState, h.link.connected,
        h.link.address, h.link.noAddress, h.link.closing, hspent, h.link.returned⟩,
      h.requested, h.bufferLength, h.sizeKnown, h.sockets⟩

theorem tells_stop (h : Tells s m) : Tells (cc3000Stop.exec s) m := by
  simp only [cc3000Stop, Prog.exec_cons, Prog.exec_nil, Action.exec, State.onBus]
  refine h.of_agree ?_ h.requested h.sockets
  exact ⟨rfl, rfl, rfl, rfl, rfl, rfl, rfl⟩

/-- Carried out without a break, a call tells what the station has become. -/
theorem tells_call (h : Tells s m) {k : Call} {p : Prog} {s' : State}
    (hreadable : ReadableCall k) (hbegin : k.begin s = some (s', p)) :
    Tells (p.exec s') (m.step (actOf k)) := by
  cases k with
  | request r =>
    simp only [Call.begin, Option.map_eq_some_iff, Prod.mk.injEq] at hbegin
    obtain ⟨p', hp, rfl, rfl⟩ := hbegin
    exact tells_request h hp hreadable
  | send sd buf len flags =>
    have hexec := exec_begin_send sd buf len flags s
    rw [hbegin, Option.map_some, Option.some.injEq] at hexec
    change p.exec s' = _ at hexec
    rw [hexec]
    exact tells_send h sd buf len flags
  | stop =>
    simp only [Call.begin, Option.some.injEq, Prod.mk.injEq] at hbegin
    obtain ⟨rfl, rfl⟩ := hbegin
    exact tells_stop h

theorem operations_call (h : Tells s m) {k : Call} {p : Prog} {s' : State}
    (hreadable : ReadableCall k) (hbegin : k.begin s = some (s', p)) :
    (m.step (actOf k)).operations = m.operations ++ (askedByCall k s).toList := by
  cases k with
  | request r =>
    simp only [Call.begin, Option.map_eq_some_iff, Prod.mk.injEq] at hbegin
    obtain ⟨p', hp, rfl, rfl⟩ := hbegin
    change (m.request r).operations = m.operations ++ (asked r).toList
    rcases request_cases hp hreadable with ⟨-, hnone⟩ | ⟨o, op, ho, hop, -⟩
    · rw [Station.request, hnone]
      exact (List.append_nil _).symm
    · rw [Station.request, ho, hop]
      cases r <;> rfl
  | send sd buf len flags =>
    by_cases hfree : s.freeBuffers = 0#8
    · rw [actOf, Station.step, if_pos (h.credits_iff.mp hfree), askedByCall, if_pos hfree]
      exact (List.append_nil _).symm
    · rw [actOf, Station.step, if_neg (mt h.credits_iff.mpr hfree), askedByCall, if_neg hfree]
      rfl
  | stop => exact (List.append_nil _).symm

theorem begin_disabled {k : Call} {p : Prog} {s' : State} (hbegin : k.begin s = some (s', p)) :
    k.begin { s with interruptsEnabled := false } =
      some ({ s' with interruptsEnabled := false }, p) := by
  cases k with
  | request r =>
    simp only [Call.begin, Option.map_eq_some_iff, Prod.mk.injEq] at hbegin
    obtain ⟨p', hp, rfl, rfl⟩ := hbegin
    simp only [Call.begin, hp, Option.map_some]
  | send sd buf len flags =>
    simp only [Call.begin] at hbegin ⊢
    by_cases hfree : s.freeBuffers = 0#8
    · rw [if_pos hfree, Option.some.injEq, Prod.mk.injEq] at hbegin
      obtain ⟨rfl, rfl⟩ := hbegin
      rw [if_pos hfree]
    · rw [if_neg hfree, Option.some.injEq, Prod.mk.injEq] at hbegin
      obtain ⟨rfl, rfl⟩ := hbegin
      rw [if_neg hfree]
  | stop =>
    simp only [Call.begin, Option.some.injEq, Prod.mk.injEq] at hbegin
    obtain ⟨rfl, rfl⟩ := hbegin
    rfl

theorem performed_call {k : Call} {p : Prog} {s' : State}
    (hproper : k.Proper { s with interruptsEnabled := false }) (hreadable : ReadableCall k)
    (hbegin : k.begin s = some (s', p)) {os : List Operation} (h : Performed s os) :
    Performed (p.exec s') (os ++ (askedByCall k s).toList) := by
  obtain ⟨ms, hcarries, hread⟩ := h
  have hdisabled := begin_disabled hbegin
  obtain ⟨hbus, -, htrace, -, hfits, -⟩ := begins_of_proper hproper hdisabled
  have hmessages := readMessage_messages hproper hreadable hdisabled
  refine ⟨ms ++ k.messages { s with interruptsEnabled := false }, ?_, ?_⟩
  · rw [bus_exec_trace]
    change s'.bus = s.bus at hbus
    rw [hbus]
    exact hcarries.append ⟨hfits, _, htrace, filter_writes _⟩
  · rw [List.map_append, List.map_append, hread, hmessages]
    cases k <;> rfl

/-- What the station allows, the device understands. -/
theorem understood_of_allows {k : Call} (hallows : m.Allows (actOf k)) (s : State) :
    k.Proper { s with interruptsEnabled := false } ∧ ReadableCall k := by
  cases k with
  | request r =>
    obtain ⟨hreadable, p, hp⟩ := hallows
    exact ⟨proper_of_readable hp hreadable s, hreadable⟩
  | send sd buf len flags => exact ⟨hallows, trivial⟩
  | stop => exact ⟨trivial, trivial⟩

theorem follows_call (h : Follows s m) {k : Call} {p : Prog} {s' : State}
    (hallows : m.Allows (actOf k)) (hbegin : k.begin s = some (s', p)) :
    Follows (p.exec s') (m.step (actOf k)) := by
  obtain ⟨hproper, hreadable⟩ := understood_of_allows hallows s
  refine ⟨tells_call h.toTells hreadable hbegin, ?_⟩
  rw [operations_call h.toTells hreadable hbegin]
  exact performed_call hproper hreadable hbegin h.performed

/-- What was handed over last is read from the return buffer. -/
theorem Follows.returned_eq (h : Follows s m) {i : ℕ} (hi : i < m.link.returned.length) :
    s.returnBuffer i = m.returned i := by
  rw [h.link.returned.at_zero i hi, Station.returned, List.getD_eq_getElem?_getD,
    List.getElem?_eq_getElem hi, Option.getD_some]

theorem follows_getBufferSize (h : Follows s m) (hlength : 3 ≤ m.link.returned.length) :
    Follows (cc3000GeneralGetBufferSize s).val.2 (m.step .getBufferSize) := by
  have hval : (cc3000GeneralGetBufferSize s).val.2 =
      { s with
        freeBuffers := s.returnBuffer 0
        bufferLength := word16 (s.returnBuffer 2) (s.returnBuffer 1)
        state := { s.state with initStatus := s.state.initStatus ||| cc3000IsBufferSize } } :=
    rfl
  have hfree : s.returnBuffer 0 = BitVec.ofNat 8 (m.returned 0).toNat := by
    rw [BitVec.ofNat_toNat, h.returned_eq (by omega)]
    rfl
  have hknown : s.state.initStatus ||| cc3000IsBufferSize = cc3000IsBufferSize := by
    rw [h.sizeKnown]
    cases m.sizeKnown <;> rfl
  rw [hval, h.returned_eq (i := 1) (by omega), h.returned_eq (i := 2) (by omega)]
  exact ⟨⟨⟨h.link.expect, h.link.nonzero, h.link.currentState, h.link.connected,
      h.link.address, h.link.noAddress, h.link.closing, hfree, h.link.returned⟩,
    h.requested, rfl, hknown, h.sockets⟩, h.performed⟩

theorem follows_getRecvBytes (h : Follows s m) (hlength : 5 ≤ m.link.returned.length) :
    Follows (cc3000GetRecvBytes s).val.2 (m.step .getRecvBytes) := by
  rw [val_cc3000GetRecvBytes, Station.step, ← h.returned_eq (by omega)]
  by_cases hpositive : (s.returnBuffer 4).toNat > 0
  · rw [if_pos hpositive, if_pos hpositive]
    refine ⟨⟨⟨rfl, ?_, h.link.currentState, h.link.connected, h.link.address, h.link.noAddress,
      h.link.closing, h.link.credits, h.link.returned⟩, ?_, h.bufferLength, h.sizeKnown,
      h.sockets⟩, h.performed⟩
    · exact fun hzero => absurd (Option.some.inj hzero) (by decide)
    · change s.desiredState + 1 = _
      rw [h.requested]
      exact (BitVec.ofNat_add m.requested 1).symm
  · rw [if_neg hpositive, if_neg hpositive]
    exact h

theorem follows_getAccecpt (h : Follows s m) (hlength : 8 ≤ m.link.returned.length) (sd : Byte)
    (addr : SockAddr) (evtRet : Mem) :
    Follows (cc3000GetAccecpt sd addr evtRet s).val.state (m.step (.getAccecpt sd)) := by
  have hret : (cc3000GetAccecpt sd addr evtRet s).val.ret =
      word32 (m.returned 7) (m.returned 6) (m.returned 5) (m.returned 4) := by
    rw [val_cc3000GetAccecpt, ← h.returned_eq (by omega), ← h.returned_eq (by omega),
      ← h.returned_eq (by omega), ← h.returned_eq (by omega)]
    rfl
  have hstep : SocketStatus.Step s (.getAccecpt sd (cc3000GetAccecpt sd addr evtRet s).val.ret)
      (cc3000GetAccecpt sd addr evtRet s).val.state := ⟨addr, evtRet, rfl, rfl⟩
  have hsockets := SocketStatus.shows_step h.sockets hstep
  obtain ⟨w, hw⟩ : ∃ w, (cc3000GetAccecpt sd addr evtRet s).val.state =
      { s with socketActiveStatus := w } := by
    rw [val_cc3000GetAccecpt]
    dsimp only
    split
    · exact ⟨_, setSocketActiveStatus_eq _ _ s⟩
    · exact ⟨_, setSocketActiveStatus_eq _ _ s⟩
  rw [hret, hw] at hsockets
  rw [hw]
  have hagree : Agree { s with socketActiveStatus := w } s := ⟨rfl, rfl, rfl, rfl, rfl, rfl, rfl⟩
  exact ⟨h.toTells.of_agree hagree h.requested hsockets, h.performed⟩

/-- What frames never touch. -/
def aside (s : State) : BitVec 32 × BitVec 16 × Byte × BitVec 32 :=
  (s.desiredState, s.bufferLength, s.state.initStatus, s.socketActiveStatus)

theorem aside_handle (data : Mem) (s : State) : aside (handle data s) = aside s := by
  have hstatus : (linkAfter data s.state).initStatus = s.state.initStatus := by
    unfold linkAfter
    split
    · rfl
    · split
      · rfl
      · split <;> rfl
  rw [handle_eq]
  simp only [aside, hstatus]

theorem aside_globals (s : State) : aside s.globals = aside s := rfl

theorem aside_arrives (reply : ℕ → Byte) (s : State) : aside (arrives reply s) = aside s := rfl

theorem Tells.received (h : Tells s m) {l : Link} (hlink : LinkRefinement.Shows t l)
    (haside : aside t = aside s) : Tells t { m with link := l } := by
  simp only [aside, Prod.mk.injEq] at haside
  obtain ⟨hdesired, hlength, hstatus, hsockets⟩ := haside
  refine ⟨hlink, hdesired.trans h.requested, hlength.trans h.bufferLength,
    hstatus.trans h.sizeKnown, ?_⟩
  rw [hsockets]
  exact h.sockets

theorem shows_arrives {l : Link} (h : LinkRefinement.Shows s l) (reply : ℕ → Byte) :
    LinkRefinement.Shows (arrives reply s) l :=
  (shows_globals (arrives reply s) l).mp ((shows_globals s l).mpr h)

theorem received_once {f : Frame} (hproper : f.Proper) {reply : ℕ → Byte}
    (hreply : Holds reply 0 (encode f)) (s : State) :
    (∀ l, LinkRefinement.Shows s l →
      LinkRefinement.Shows (cc3000SpiReceive (arrives reply s)).val.2 (l.receive f)) ∧
    aside (cc3000SpiReceive (arrives reply s)).val.2 = aside s := by
  obtain ⟨-, -, data, hdata, hglobals⟩ := took_receive hproper (s := arrives reply s) hreply
  refine ⟨fun l hlink => ?_, ?_⟩
  · rw [← shows_globals, hglobals, shows_globals]
    exact shows_handle (shows_arrives hlink reply) hdata hproper
  · rw [← aside_globals, hglobals, aside_globals, aside_handle, aside_arrives]

theorem received_twice {f : Frame} (hproper : f.Proper) {reply : ℕ → Byte}
    (hreply : Holds reply 0 (encode f)) (s : State) :
    (∀ l, LinkRefinement.Shows s l →
      LinkRefinement.Shows (service (arrives reply s)).val.2 ((l.receive f).receive f)) ∧
    aside (service (arrives reply s)).val.2 = aside s := by
  obtain ⟨hne, hfits⟩ := length_bytes hproper
  obtain ⟨haccept, -, hbuffer⟩ :=
    StaleBytes.receivedBuffer_of_holds hne hfits (s := arrives reply s) hreply
  obtain ⟨-, hglobals⟩ := service_of_accepts (arrives reply s) haccept
  have hdata : Holds (receivedBuffer (arrives reply s)) 0 f.bytes := by
    rw [hbuffer]
    exact holds_withPrefix f.bytes s.spiRxBuffer
  refine ⟨fun l hlink => ?_, ?_⟩
  · rw [← shows_globals, hglobals, shows_globals]
    exact shows_handle (shows_handle (shows_arrives hlink reply) hdata hproper) hdata hproper
  · rw [← aside_globals, hglobals, aside_globals, aside_handle, aside_handle, aside_arrives]

theorem Performed.received {reply : ℕ → Byte} (hreceives : Receives reply s t)
    {os : List Operation} (h : Performed s os) : Performed t os := by
  obtain ⟨ms, hcarries, hread⟩ := h
  exact ⟨ms, hreceives.carries hcarries, hread⟩

theorem follows_receive (h : Follows s m) {f : Frame} (hproper : f.Proper) {reply : ℕ → Byte}
    (hreply : Holds reply 0 (encode f)) :
    Follows (cc3000SpiReceive (arrives reply s)).val.2 (m.step (.receive f)) := by
  obtain ⟨hlink, haside⟩ := received_once hproper hreply s
  obtain ⟨⟨hbus, hpadding, hdesired⟩, -⟩ :=
    receives_cc3000SpiReceive (arrives reply s) (fun i => congrArg reply (Nat.zero_add i))
  have hreceives : Receives reply s _ := ⟨hbus, hpadding, hdesired⟩
  exact ⟨h.toTells.received (hlink _ h.link) haside, h.performed.received hreceives⟩

theorem follows_service (h : Follows s m) {f : Frame} (hproper : f.Proper) {reply : ℕ → Byte}
    (hreply : Holds reply 0 (encode f)) :
    Follows (service (arrives reply s)).val.2 (m.step (.service f)) := by
  obtain ⟨hlink, haside⟩ := received_twice hproper hreply s
  exact ⟨h.toTells.received (hlink _ h.link) haside,
    h.performed.received (receives_service s reply)⟩

/-- Every move of the station can be followed, and however the driver does it, it follows. -/
theorem follows_step (s : State) (m : Station) (l : Act) (n : Station) (h : Follows s m)
    (hmoves : m.Moves l n) : (∃ t, Step s l t) ∧ ∀ t, Step s l t → Follows t n := by
  obtain ⟨hallows, rfl⟩ := hmoves
  cases l with
  | request r =>
    obtain ⟨p, hp⟩ := hallows.2
    refine ⟨⟨_, p, hp, rfl⟩, ?_⟩
    rintro t ⟨p', hp', rfl⟩
    exact follows_call h (k := .request r) hallows (by rw [Call.begin, hp', Option.map_some])
  | send sd buf len flags =>
    refine ⟨⟨_, rfl⟩, ?_⟩
    rintro t rfl
    have hexec := exec_begin_send sd buf len flags s
    obtain ⟨⟨s', p⟩, hbegin, hlast⟩ := Option.map_eq_some_iff.mp hexec
    rw [← hlast]
    exact follows_call h (k := .send sd buf len flags) hallows hbegin
  | getBufferSize =>
    refine ⟨⟨_, rfl⟩, ?_⟩
    rintro t rfl
    exact follows_getBufferSize h hallows
  | getRecvBytes =>
    refine ⟨⟨_, rfl⟩, ?_⟩
    rintro t rfl
    exact follows_getRecvBytes h hallows
  | getAccecpt sd =>
    refine ⟨⟨_, ⟨0, fun _ => 0⟩, fun _ => 0, rfl⟩, ?_⟩
    rintro t ⟨addr, evtRet, rfl⟩
    exact follows_getAccecpt h hallows sd addr evtRet
  | stop =>
    refine ⟨⟨_, rfl⟩, ?_⟩
    rintro t rfl
    exact follows_call h (k := .stop) hallows rfl
  | receive f =>
    refine ⟨⟨_, withPrefix (encode f) fun _ => 0, holds_withPrefix _ _, rfl⟩, ?_⟩
    rintro t ⟨reply, hreply, rfl⟩
    exact follows_receive h hallows hreply
  | service f =>
    refine ⟨⟨_, withPrefix (encode f) fun _ => 0, holds_withPrefix _ _, rfl⟩, ?_⟩
    rintro t ⟨reply, hreply, rfl⟩
    exact follows_service h hallows hreply

end Steps

def openingStation : Station := ⟨unknownLink, 0, 0, false, .allInactive, []⟩

theorem follows_initial (miso : ℕ → Byte) : Follows (initial miso) openingStation :=
  ⟨⟨shows_initial miso, rfl, rfl, rfl, SocketStatus.shows_init⟩, [], carries_nil, rfl⟩

/-- For every run of a station and every state of the driver that follows it at its start:
the driver can do the same, and whatever bytes the device sends for the frames, the driver's
functions tell what the station knows, and the device has been asked for its operations. -/
theorem driver_implements (m n : Station) (ls : List Act) (hrun : Run Station.Moves m ls n)
    (s : State) (h : Follows s m) :
    (∃ t, Run Step s ls t) ∧
    ∀ t, Run Step s ls t → Follows t n ∧ deviceOperations t.bus = some n.operations ∧
      (t.cc3000IsReady = 1 ↔
        BitVec.ofNat 32 n.requested = BitVec.ofNat 32 n.link.answered) ∧
      ∀ sd, getSocketActiveStatus t sd = n.sockets.read sd := by
  obtain ⟨hexists, hall⟩ := hrun.followed follows_step h
  refine ⟨hexists, fun t ht => ?_⟩
  have hfollows := hall t ht
  obtain ⟨ms, hcarries, hread⟩ := hfollows.performed
  refine ⟨hfollows, ?_, ?_, SocketStatus.getSocketActiveStatus_eq hfollows.sockets⟩
  · rw [deviceOperations, hcarries.deviceLog, Option.bind_some, mapM_readMessage hread]
  · rw [State.cc3000IsReady_eq_one, hfollows.requested, hfollows.link.currentState]

/-- The device is started, and a socket is requested and answered. -/
def startAndSocket : List Act :=
  [.request (.start 0), .receive (.event hciCmndSimpleLinkStart []),
    .request (.reqSocket 2 1 6), .receive (.event hciCmndSocket [0, 3, 0, 0, 0])]

theorem driver_implements_socket :
    ∃ t, Run Step (initial fun _ => 0) startAndSocket t ∧
      deviceOperations t.bus = some [.start 0, .socket 2 1 6] ∧ t.cc3000IsReady = 1 := by
  have hstarted : (Frame.event hciCmndSimpleLinkStart []).Proper :=
    ⟨by decide, by decide, by decide, by decide⟩
  have hsocket : (Frame.event hciCmndSocket [0, 3, 0, 0, 0]).Proper :=
    ⟨by decide, by decide, by decide, by decide⟩
  have hrun : Run Station.Moves openingStation startAndSocket _ :=
    Run.cons ⟨⟨trivial, _, rfl⟩, rfl⟩ <|
    Run.cons ⟨hstarted, rfl⟩ <|
    Run.cons ⟨⟨trivial, _, rfl⟩, rfl⟩ <|
    Run.cons ⟨hsocket, rfl⟩ <| Run.nil _
  obtain ⟨⟨t, ht⟩, hall⟩ := driver_implements _ _ _ hrun _ (follows_initial _)
  obtain ⟨-, hoperations, hready, -⟩ := hall t ht
  exact ⟨t, ht, hoperations, hready.mpr rfl⟩

end Cc3000Async.DriverRefinement
