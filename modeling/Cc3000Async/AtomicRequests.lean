import Cc3000Async.Requests

/-!
Requests as transactions. A call of an operation either puts one command frame on the
bus and waits for its answer, or leaves bus, counter, expectation and padding flag as
they were. What runs outside the switch of the profile command belongs to neither case.
-/
namespace Cc3000Async.AtomicRequests

open ByteMemory Opcodes DriverState HciFrames SocketOperations WlanOperations Requests

/-- The operations that raise the desired state and send their frame between the HCI
start and end calls. -/
def BetweenCalls : Request → Prop
  | .start _ => False
  | .generalReqBufferSize => False
  | _ => True

/-- One command frame is on the bus and its answer is waited for. -/
structure Sends (s t : State) : Prop where
  bus : ∃ opcode argsLength args,
    t.bus = s.bus ++ bracket (commandBytes opcode argsLength args)
  desiredState : t.desiredState = s.desiredState + 1
  expect : t.expect ≠ 0#16

/-- The bus is untouched and nothing more is waited for. -/
structure Silent (s t : State) : Prop where
  bus : t.bus = s.bus
  desiredState : t.desiredState = s.desiredState
  expect : t.expect = s.expect
  paddingByteRequired : t.paddingByteRequired = s.paddingByteRequired

/-- The call has a defined behaviour and does all of it or nothing. -/
def AllOrNothing (r : Request) (s : State) : Prop :=
  ∃ p, r.prog = some p ∧ (Sends s (p.exec s) ∨ Silent s (p.exec s))

/-- A profile has a security type that the switch knows, and a connect call has a key. -/
def Supported : Request → Prop
  | .wlanAddProfile profile => profile.KnownType
  | .wlanConnect _ _ key => key ≠ none
  | _ => True

theorem exec_after (r : Request) (s : State) :
    (r.after.exec s).bus = s.bus ∧ (r.after.exec s).desiredState = s.desiredState ∧
      (r.after.exec s).expect = s.expect := by
  cases r with
  | socketClose sd =>
    simp only [Request.after, Prog.exec_cons, Prog.exec_nil, Action.exec,
      State.setSocketActiveStatus]
    split <;> exact ⟨rfl, rfl, rfl⟩
  | _ => exact ⟨rfl, rfl, rfl⟩

theorem allOrNothing_of_command (r : Request) (c : Command) (hc : r.command = some c)
    (s : State) : AllOrNothing r s := by
  obtain ⟨hbus, hdesired, hexpect⟩ := exec_after r (c.prog.exec s)
  have hnonzero := (armedOpcodes_spec _ (command_expected_mem r c hc)).1
  refine ⟨_, prog_of_command r c hc, Or.inl ⟨?_, ?_, ?_⟩⟩
  · refine ⟨c.opcode, c.argsLength, streamed c.calls, ?_⟩
    rw [Prog.exec_append, hbus, c.exec_prog]
  · rw [Prog.exec_append, hdesired, c.exec_prog]
  · rw [Prog.exec_append, hexpect, c.exec_prog]
    exact hnonzero

/-- Without a case in the switch, the end call still closes a frame that was never
opened, sending the padding that the frame before it left, and an answer is expected. -/
theorem exec_unknownType (profile : Profile) (h : ¬ profile.KnownType) (s : State) :
    (cc3000WlanAddProfile profile).exec s =
      { s with
        desiredState := s.desiredState + 1
        expect := hciCmndWlanIoctlAddProfile
        interruptsEnabled := true
        bus := s.bus ++ (paddingBytes s.paddingByteRequired).map .send ++
          [.deassertCs, .interruptEnable] } := by
  have hprog : cc3000WlanAddProfile profile = .incDesiredState ::
      (cc3000HciEndCommand ++ [.hciExpect hciCmndWlanIoctlAddProfile]) := by
    simp [cc3000WlanAddProfile, (profile.arguments_eq_none_iff).mpr h]
  rw [hprog, Prog.exec_cons, Prog.exec_append, exec_cc3000HciEndCommand,
    exec_cc3000SpiFinishSend]
  rfl

/-- Such a call waits for an answer, and has sent no frame. -/
theorem not_allOrNothing_unknownType (profile : Profile) (h : ¬ profile.KnownType)
    (s : State) : ¬ AllOrNothing (.wlanAddProfile profile) s := by
  rintro ⟨p, hp, hcall⟩
  have hp' : cc3000WlanAddProfile profile = p := Option.some.inj hp
  rw [← hp', exec_unknownType profile h] at hcall
  rcases hcall with hsends | hsilent
  · obtain ⟨opcode, argsLength, args, hbus⟩ := hsends.bus
    rw [List.append_assoc, List.append_cancel_left_eq] at hbus
    -- the events of a frame open with the interrupt disabled
    have hhead := congrArg List.head? hbus
    unfold paddingBytes bracket at hhead
    split at hhead
    · exact absurd hhead (by simp)
    · exact absurd hhead (by simp)
  · exact absurd (BitVec.add_right_eq_self.mp hsilent.desiredState) (by decide)

/-- For every operation that sends between the HCI start and end calls, every value of
its parameters and every prior state: the call is all or nothing exactly when its
parameters are supported. -/
theorem allOrNothing_iff (r : Request) (h : BetweenCalls r) (s : State) :
    AllOrNothing r s ↔ Supported r := by
  cases r with
  | start patchesRequest => exact absurd h id
  | generalReqBufferSize => exact absurd h id
  | socketMdnsAdvertise mdnsEnabled serviceName =>
    refine ⟨fun _ => trivial, fun _ => ?_⟩
    by_cases hlong : (serviceNameLength serviceName).toNat > mdnsDeviceServiceMaxLength
    · have hprog : (Request.socketMdnsAdvertise mdnsEnabled serviceName).prog = some [] := by
        simp only [Request.prog, cc3000SocketMdnsAdvertise, if_pos hlong]
      exact ⟨[], hprog, Or.inr ⟨rfl, rfl, rfl, rfl⟩⟩
    · have hc : (Request.socketMdnsAdvertise mdnsEnabled serviceName).command = some _ :=
        if_neg hlong
      exact allOrNothing_of_command _ _ hc s
  | wlanConnect ssid secType key =>
    cases key with
    | none =>
      constructor
      · rintro ⟨p, hp, -⟩
        exact absurd hp (by simp [Request.prog, Request.command, cc3000WlanConnect])
      · exact fun hkey => absurd rfl hkey
    | some key =>
      exact ⟨fun _ => Option.some_ne_none key, fun _ => allOrNothing_of_command _ _ rfl s⟩
  | wlanAddProfile profile =>
    constructor
    · intro hcall
      by_contra hunknown
      exact not_allOrNothing_unknownType profile hunknown s hcall
    · intro hknown
      obtain ⟨pair, hpair⟩ := Option.ne_none_iff_exists'.mp
        (mt (profile.arguments_eq_none_iff).mp (not_not.mpr hknown))
      have hc : (Request.wlanAddProfile profile).command = some _ :=
        congrArg (Option.map _) hpair
      exact allOrNothing_of_command _ _ hc s
  | _ => exact ⟨fun _ => trivial, fun _ => allOrNothing_of_command _ _ rfl s⟩

theorem allOrNothing_disconnect :
    AllOrNothing .wlanDisconnect (initial fun _ => 0) ↔ Supported .wlanDisconnect :=
  allOrNothing_iff .wlanDisconnect trivial (initial fun _ => 0)

/-- A profile with a security type past the last one, and nothing in it. -/
def unknownProfile : Profile where
  ulSecType := 4
  ucSsid := fun _ => 0
  ulSsidLen := 0
  ucBssid := none
  ulPriority := 0
  ulPairwiseCipherOrTxKeyLen := 0
  ulGroupCipherTxKeyIndex := 0
  ulKeyMgmt := 0
  ucPfOrKey := fun _ => 0
  ulPassPhraseLen := 0

theorem unknownProfile_waits :
    BetweenCalls (.wlanAddProfile unknownProfile) ∧
      ¬ AllOrNothing (.wlanAddProfile unknownProfile) (initial fun _ => 0) :=
  ⟨trivial, not_allOrNothing_unknownType unknownProfile (by decide) (initial fun _ => 0)⟩

end Cc3000Async.AtomicRequests
