import Cc3000Async.WlanOperations

/-!
The start-up sequence, the buffer-size request, and all request operations as one
type. `Request.prog` is the program an operation runs; what it does to the
counters and to the expectation is stated once for all of them.
-/
namespace Cc3000Async.Requests

open ByteMemory Opcodes TracedAccess DriverState EventHandler HciFrames SocketOperations
open WlanOperations

def cc3000Start (patchesRequest : Byte) : Prog :=
  [.resetState, .wlEn false, .waitIrq true, .wlEn true, .waitIrq false, .assertCs,
    .spiSend spiOperationWrite, .spiSend 0, .spiSend 5, .spiSend 0, .spiSend 0,
    .spiSend hciTypeCommand,
    .spiSend ((hciCmndSimpleLinkStart &&& 0xff#16).setWidth 8),
    .spiSend ((hciCmndSimpleLinkStart >>> 8).setWidth 8),
    .spiSend 1, .spiSend patchesRequest, .deassertCs,
    .incDesiredState, .hciExpect hciCmndSimpleLinkStart, .interruptEnable]

def cc3000Stop : Prog := [.interruptDisable, .wlEn false, .waitIrq true]

def cc3000GeneralReqBufferSize : Prog :=
  [.incDesiredState] ++ cc3000HciSendCommand hciCmndReadBufferSize 0 (fun _ => 0) ++
    [.hciExpect hciCmndReadBufferSize]

def cc3000IsBufferSize : Byte := 0x02

def cc3000GeneralGetBufferSize (s : State) : Traced Access (Byte × State) := do
  let freeBuffers ← cc3000GetReturnUint8 s 0
  let bufferLength ← cc3000GetReturnUint16 s 1
  pure (0,
    { s with
      freeBuffers := freeBuffers
      bufferLength := bufferLength
      state := { s.state with initStatus := s.state.initStatus ||| cc3000IsBufferSize } })

/-- A call of a request operation with its parameters. -/
inductive Request
  | start (patchesRequest : Byte)
  | generalReqBufferSize
  | reqSocket (domain type protocol : Byte)
  | connect (sd : Byte) (port : BitVec 16) (addr : IpAddr)
  | reqAccept (sd : Byte)
  | listen (sd : Byte)
  | bind (sd : Byte) (port : BitVec 16)
  | setsockopt (sd : Byte) (level optname : BitVec 32) (optval : Mem) (optlen : BitVec 32)
  | reqSelect (nfds : BitVec 32) (readsds writesds exceptsds : Option (BitVec 32))
      (timeout : Option Timeval)
  | reqRecv (sd : Byte) (len : BitVec 16) (flags : Byte)
  | socketClose (sd : Byte)
  | socketMdnsAdvertise (mdnsEnabled : Byte) (serviceName : CString)
  | wlanDisconnect
  | wlanGetStatus
  | wlanSetScanParams (scanFrequency : BitVec 32) (channelMask : BitVec 16)
  | wlanConnect (ssid : CString) (secType : Byte) (key : Option CString)
  | wlanSetEventMask (mask : BitVec 16)
  | wlanSetConnectionPolicy (fastConnect : FastConnectOptions)
      (openApConnect : OpenApConnectOptions) (useProfiles : UseProfilesOptions)
  | wlanReqScanResult
  | wlanAddProfile (profile : Profile)
  | wlanDelProfile (ulIndex : BitVec 32)
  | netappDhcp (aucIp aucSubnetMask aucDefaultGateway aucDnsServer : BitVec 32)
  | netappTimeoutValues (aucDhcp aucArp aucKeepalive aucInactivity : BitVec 32)

namespace Request

/-- The command whose frame the call streams between the start and end calls: none
for the two operations that send their frame otherwise, and none when the call
sends no frame or has no defined behaviour. -/
def command : Request → Option Command
  | .start _ => none
  | .generalReqBufferSize => none
  | .reqSocket domain type protocol => some (cc3000ReqSocket domain type protocol)
  | .connect sd port addr => some (cc3000Connect sd port addr)
  | .reqAccept sd => some (cc3000ReqAccept sd)
  | .listen sd => some (cc3000Listen sd)
  | .bind sd port => some (cc3000Bind sd port)
  | .setsockopt sd level optname optval optlen =>
      some (cc3000Setsockopt sd level optname optval optlen)
  | .reqSelect nfds readsds writesds exceptsds timeout =>
      some (cc3000ReqSelect nfds readsds writesds exceptsds timeout)
  | .reqRecv sd len flags => some (cc3000ReqRecv sd len flags)
  | .socketClose sd => some (closeCommand sd)
  | .socketMdnsAdvertise mdnsEnabled serviceName =>
      if (serviceNameLength serviceName).toNat > mdnsDeviceServiceMaxLength then none
      else some (mdnsCommand mdnsEnabled serviceName (serviceNameLength serviceName))
  | .wlanDisconnect => some cc3000WlanDisconnect
  | .wlanGetStatus => some cc3000WlanGetStatus
  | .wlanSetScanParams scanFrequency channelMask =>
      some (cc3000WlanSetScanParams scanFrequency channelMask)
  | .wlanConnect ssid secType key => cc3000WlanConnect ssid secType key
  | .wlanSetEventMask mask => some (cc3000WlanSetEventMask mask)
  | .wlanSetConnectionPolicy fastConnect openApConnect useProfiles =>
      some (cc3000WlanSetConnectionPolicy fastConnect openApConnect useProfiles)
  | .wlanReqScanResult => some cc3000WlanReqScanResult
  | .wlanAddProfile profile => profile.command
  | .wlanDelProfile ulIndex => some (cc3000WlanDelProfile ulIndex)
  | .netappDhcp aucIp aucSubnetMask aucDefaultGateway aucDnsServer =>
      some (cc3000NetappDhcp aucIp aucSubnetMask aucDefaultGateway aucDnsServer)
  | .netappTimeoutValues aucDhcp aucArp aucKeepalive aucInactivity =>
      some (WlanOperations.netappTimeoutValues aucDhcp aucArp aucKeepalive aucInactivity)

def after : Request → Prog
  | .socketClose sd => [.setSocketActiveStatus sd socketStatusInactive]
  | _ => []

/-- The program of the call; none when it has no defined behaviour. -/
def prog : Request → Option Prog
  | .start patchesRequest => some (cc3000Start patchesRequest)
  | .generalReqBufferSize => some cc3000GeneralReqBufferSize
  | .socketClose sd => some (cc3000SocketClose sd)
  | .socketMdnsAdvertise mdnsEnabled serviceName =>
      some (cc3000SocketMdnsAdvertise mdnsEnabled serviceName).2
  | .wlanAddProfile profile => some (cc3000WlanAddProfile profile)
  | r => r.command.map Command.prog

def Arms (r : Request) (op : BitVec 16) : Prop :=
  ∃ p, r.prog = some p ∧ Action.hciExpect op ∈ p

end Request

def armedOpcodes : List (BitVec 16) :=
  [hciCmndSimpleLinkStart, hciCmndReadBufferSize, hciEvntSocket, hciEvntConnect,
   hciEvntAccept, hciEvntListen, hciEvntBind, hciEvntSetsockopt, hciEvntSelect, hciEvntRecv,
   hciEvntCloseSocket, hciEvntMdnsAdvertise, hciEvntWlanDisconnect,
   hciCmndWlanIoctlStatusget, hciCmndWlanIoctlSetScanparam, hciEvntWlanConnect,
   hciCmndEventMask, hciCmndWlanIoctlSetConnectionPolicy, hciCmndWlanIoctlGetScanResults,
   hciCmndWlanIoctlAddProfile, hciCmndWlanIoctlDelProfile, hciNetappDhcp,
   hciNetappSetTimers]

/-- An expected opcode is nonzero, is no opcode of a data frame, carries no bit of an
unsolicited WLAN event, and is a label of the copying switch. -/
theorem armedOpcodes_spec : ∀ op ∈ armedOpcodes,
    op ≠ 0#16 ∧ op ≠ hciDataRecv ∧ op ≠ hciEvntDataUnsolFreeBuff ∧
      op &&& hciEvntWlanUnsolBase = 0#16 ∧ op ∈ normalEvents := by
  have hall : armedOpcodes.all (fun op => decide (op ≠ 0#16 ∧ op ≠ hciDataRecv ∧
      op ≠ hciEvntDataUnsolFreeBuff ∧ op &&& hciEvntWlanUnsolBase = 0#16 ∧
      op ∈ normalEvents)) = true := by
    decide +kernel
  intro op hop
  exact of_decide_eq_true (List.all_eq_true.mp hall op hop)

theorem command_expected_mem (r : Request) (c : Command) (h : r.command = some c) :
    c.expected ∈ armedOpcodes := by
  cases r with
  | start patchesRequest => simp [Request.command] at h
  | generalReqBufferSize => simp [Request.command] at h
  | socketMdnsAdvertise mdnsEnabled serviceName =>
    simp only [Request.command, Option.ite_none_left_eq_some, Option.some.injEq] at h
    obtain ⟨-, rfl⟩ := h
    exact List.mem_of_elem_eq_true rfl
  | wlanConnect ssid secType key =>
    cases key with
    | none => simp [Request.command, cc3000WlanConnect] at h
    | some key =>
      simp only [Request.command, cc3000WlanConnect, Option.some.injEq] at h
      subst h
      exact List.mem_of_elem_eq_true rfl
  | wlanAddProfile profile =>
    simp only [Request.command, Profile.command, Option.map_eq_some_iff] at h
    obtain ⟨pair, -, rfl⟩ := h
    exact List.mem_of_elem_eq_true rfl
  | _ =>
    simp only [Request.command, Option.some.injEq] at h
    subst h
    exact List.mem_of_elem_eq_true rfl

/-- The command of a call, when it has one, is what its program runs first. -/
theorem prog_of_command (r : Request) (c : Command) (h : r.command = some c) :
    r.prog = some (c.prog ++ r.after) := by
  cases r with
  | start patchesRequest => simp [Request.command] at h
  | generalReqBufferSize => simp [Request.command] at h
  | socketClose sd =>
    simp only [Request.command, Option.some.injEq] at h
    subst h
    rfl
  | socketMdnsAdvertise mdnsEnabled serviceName =>
    simp only [Request.command, Option.ite_none_left_eq_some, Option.some.injEq] at h
    obtain ⟨hlen, rfl⟩ := h
    simp [Request.prog, Request.after, cc3000SocketMdnsAdvertise, hlen]
  | wlanAddProfile profile =>
    simp [Request.prog, Request.after, cc3000WlanAddProfile_eq profile c h]
  | _ =>
    simp only [Request.command] at h
    simp [Request.prog, Request.after, Request.command, h]

/-- A call without a command either sends its frame otherwise, or rejects its
argument, or is a profile of unknown security type. -/
theorem prog_cases (r : Request) (p : Prog) (h : r.prog = some p) :
    (∃ c, r.command = some c ∧ p = c.prog ++ r.after) ∨
    (∃ patchesRequest, p = cc3000Start patchesRequest) ∨
    p = cc3000GeneralReqBufferSize ∨ p = [] ∨
    p = [.incDesiredState] ++ cc3000HciEndCommand ++
      [.hciExpect hciCmndWlanIoctlAddProfile] := by
  cases hc : r.command with
  | some c =>
    rw [prog_of_command r c hc, Option.some.injEq] at h
    exact Or.inl ⟨c, rfl, h.symm⟩
  | none =>
    right
    cases r with
    | start patchesRequest =>
      simp only [Request.prog, Option.some.injEq] at h
      exact Or.inl ⟨patchesRequest, h.symm⟩
    | generalReqBufferSize =>
      simp only [Request.prog, Option.some.injEq] at h
      exact Or.inr (Or.inl h.symm)
    | socketMdnsAdvertise mdnsEnabled serviceName =>
      simp only [Request.command, ite_eq_left_iff, reduceCtorEq, imp_false, not_not] at hc
      simp only [Request.prog, cc3000SocketMdnsAdvertise, hc, if_true, Option.some.injEq] at h
      exact Or.inr (Or.inr (Or.inl h.symm))
    | wlanAddProfile profile =>
      simp only [Request.command, Profile.command, Option.map_eq_none_iff] at hc
      simp only [Request.prog, cc3000WlanAddProfile, hc, Option.some.injEq,
        List.append_nil] at h
      exact Or.inr (Or.inr (Or.inr h.symm))
    | wlanConnect ssid secType key =>
      simp only [Request.command] at hc
      simp [Request.prog, Request.command, hc] at h
    | _ => simp [Request.command] at hc

/-- The calls that have no command: the two that send their frame otherwise, one with a name
that is too long, and a profile of unknown security type. -/
theorem cases_of_command_none (r : Request) (p : Prog) (hp : r.prog = some p)
    (hc : r.command = none) :
    (∃ patchesRequest, r = .start patchesRequest) ∨ r = .generalReqBufferSize ∨
    (∃ mdnsEnabled serviceName, r = .socketMdnsAdvertise mdnsEnabled serviceName ∧
      (serviceNameLength serviceName).toNat > mdnsDeviceServiceMaxLength ∧ p = []) ∨
    ∃ profile, r = .wlanAddProfile profile ∧ ¬ profile.KnownType := by
  cases r with
  | start patchesRequest => exact Or.inl ⟨patchesRequest, rfl⟩
  | generalReqBufferSize => exact Or.inr (Or.inl rfl)
  | socketMdnsAdvertise mdnsEnabled serviceName =>
    simp only [Request.command, ite_eq_left_iff, reduceCtorEq, imp_false, not_not] at hc
    simp only [Request.prog, cc3000SocketMdnsAdvertise, hc, if_true, Option.some.injEq] at hp
    exact Or.inr (Or.inr (Or.inl ⟨mdnsEnabled, serviceName, rfl, hc, hp.symm⟩))
  | wlanAddProfile profile =>
    simp only [Request.command, Profile.command, Option.map_eq_none_iff] at hc
    exact Or.inr (Or.inr (Or.inr ⟨profile, rfl, (profile.arguments_eq_none_iff).mp hc⟩))
  | wlanConnect ssid secType key => simp [Request.prog, hc] at hp
  | _ => simp [Request.command] at hc

/-- The program raises the desired state once and arms the given opcode and no other. -/
structure Raises (op : BitVec 16) (p : Prog) : Prop where
  count : p.count .incDesiredState = 1
  arms : .hciExpect op ∈ p
  only : ∀ op', .hciExpect op' ∈ p → op' = op

theorem raises_command (c : Command) (r : Request) : Raises c.expected (c.prog ++ r.after) := by
  have hafter : r.after.count .incDesiredState = 0 ∧ ∀ op, .hciExpect op ∉ r.after := by
    cases r <;> simp [Request.after]
  refine ⟨?_, ?_, ?_⟩
  · simp [Command.prog, cc3000HciStartCommand, cc3000SpiStartSend, callsProg_eq,
      cc3000HciEndCommand, List.count_eq_zero, hafter.1]
  · simp [Command.prog]
  · intro op' hmem
    rcases List.mem_append.mp hmem with hmem | hmem
    · simpa [Command.prog, cc3000HciStartCommand, cc3000SpiStartSend, callsProg_eq,
        cc3000HciEndCommand] using hmem
    · exact absurd hmem (hafter.2 op')

theorem raises_start (patchesRequest : Byte) :
    Raises hciCmndSimpleLinkStart (cc3000Start patchesRequest) := by
  constructor <;> simp [cc3000Start]

/-- A request either rejects its argument and runs nothing, or raises the desired
state once and arms an expected opcode. -/
theorem prog_raises (r : Request) (p : Prog) (hp : r.prog = some p) :
    p = [] ∨ ∃ op ∈ armedOpcodes, Raises op p := by
  rcases prog_cases r p hp with ⟨c, hc, rfl⟩ | ⟨patchesRequest, rfl⟩ | rfl | rfl | rfl
  · exact Or.inr ⟨c.expected, command_expected_mem r c hc, raises_command c r⟩
  · exact Or.inr ⟨hciCmndSimpleLinkStart, by simp [armedOpcodes], raises_start patchesRequest⟩
  · refine Or.inr ⟨hciCmndReadBufferSize, by simp [armedOpcodes], ?_, ?_, ?_⟩
    · simp [cc3000GeneralReqBufferSize, cc3000HciSendCommand, cc3000SpiStartSend,
        cc3000SpiFinishSend, startSendPadding, cc3000SpiHeaderSize, hciCommandHeaderLength]
    · simp [cc3000GeneralReqBufferSize]
    · simp [cc3000GeneralReqBufferSize, cc3000HciSendCommand, cc3000SpiStartSend,
        cc3000SpiFinishSend]
  · exact Or.inl rfl
  · refine Or.inr ⟨hciCmndWlanIoctlAddProfile, by simp [armedOpcodes], ?_, ?_, ?_⟩
    · simp [cc3000HciEndCommand]
    · simp
    · simp [cc3000HciEndCommand]

theorem arms_mem (r : Request) (op : BitVec 16) (h : r.Arms op) : op ∈ armedOpcodes := by
  obtain ⟨p, hp, hmem⟩ := h
  rcases prog_raises r p hp with rfl | ⟨op', hop', hraises⟩
  · exact absurd hmem List.not_mem_nil
  · rw [hraises.only op hmem]
    exact hop'

theorem exec_expect_of_not_mem (p : Prog) (hp : ∀ op, .hciExpect op ∉ p) (s : State) :
    (p.exec s).expect = s.expect := by
  induction p generalizing s with
  | nil => rfl
  | cons a p ih =>
    have harmed : a.armed = none := by
      cases h : a.armed with
      | none => rfl
      | some op =>
        rw [Action.armed_eq_some] at h
        exact absurd (List.mem_cons.mpr (Or.inl h.symm)) (hp op)
    rw [Prog.exec_cons, ih (fun op hmem => hp op (List.mem_cons_of_mem a hmem)),
      Action.exec_expect, harmed]
    rfl

/-- An opcode that is armed or about to be stays so while a program that arms no other
runs. -/
theorem armed_exec {a : Action} {p : Prog} {op : BitVec 16}
    (honly : ∀ op', .hciExpect op' ∈ a :: p → op' = op) {s : State}
    (harmed : .hciExpect op ∈ a :: p ∨ s.expect = op) :
    .hciExpect op ∈ p ∨ (a.exec s).expect = op := by
  rw [a.exec_expect]
  cases ha : a.armed with
  | some op' =>
    rw [Action.armed_eq_some] at ha
    exact Or.inr (honly op' (List.mem_cons.mpr (Or.inl ha.symm)))
  | none =>
    rcases harmed with hmem | hexpect
    · rcases List.mem_cons.mp hmem with heq | hmem
      · rw [← heq] at ha
        exact absurd ha (by simp [Action.armed])
      · exact Or.inl hmem
    · exact Or.inr hexpect

theorem exec_expect_of_only (p : Prog) (op : BitVec 16)
    (honly : ∀ op', .hciExpect op' ∈ p → op' = op) (s : State)
    (harmed : .hciExpect op ∈ p ∨ s.expect = op) : (p.exec s).expect = op := by
  induction p generalizing s with
  | nil => exact harmed.resolve_left List.not_mem_nil
  | cons a p ih =>
    have hrest : ∀ op', .hciExpect op' ∈ p → op' = op := fun op' hmem =>
      honly op' (List.mem_cons_of_mem a hmem)
    exact ih hrest (a.exec s) (armed_exec honly harmed)

/-- What a request does to the counters and the expectation. -/
structure Requested (op : BitVec 16) (s t : State) : Prop where
  desiredState : t.desiredState = s.desiredState + 1
  currentState : t.currentState = s.currentState
  expect : t.expect = op
  returnBuffer : t.returnBuffer = s.returnBuffer
  freeBuffers : t.freeBuffers = s.freeBuffers

theorem requested_of_raises {op : BitVec 16} {p : Prog} (h : Raises op p) (s : State) :
    Requested op s (p.exec s) := by
  obtain ⟨hcurrent, hreturn, hfree⟩ := p.exec_received s
  refine ⟨?_, hcurrent, ?_, hreturn, hfree⟩
  · rw [Prog.exec_desiredState, h.count]
    rfl
  · exact exec_expect_of_only p op h.only s (Or.inl h.arms)

end Cc3000Async.Requests
