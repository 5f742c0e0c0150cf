import Cc3000Async.DeviceFrames
import Cc3000Async.InterruptInterleaving
import Cc3000Async.StaleBytes

/-!
A session of the application, the driver and the device. The application makes its calls
when the driver is ready, the main loop alone receives, and the device takes its commands
off the bus, answers each with one event under the opcode of the command, and sends
unsolicited events of its own in between. Whatever the order of these steps, the driver
hands every answer to the request that it answers.
-/
namespace Cc3000Async.DeviceSession

open ByteMemory TracedAccess LabelledRuns Opcodes DriverState HciFrames EventHandler SpiReceive
open DeviceFrames FrameRoundTrip SocketOperations WlanOperations Requests StaleBytes ServiceLoop
open BusTransactions InterruptInterleaving

structure Event where
  op : BitVec 16
  args : List Byte
  deriving DecidableEq, Repr

namespace Event

def frame (e : Event) : List Byte := eventFrame e.op e.args

def Fits (e : Event) : Prop := 5 + e.args.length ≤ cc300SpiRxBufferSize

/-- The opcode is that of the free-buffer event or has the bit of an unsolicited WLAN
event. -/
def Unsolicited (e : Event) : Prop :=
  e.op = hciEvntDataUnsolFreeBuff ∨ e.op &&& hciEvntWlanUnsolBase ≠ 0#16

instance (e : Event) : Decidable e.Fits := inferInstanceAs (Decidable (_ ≤ _))

instance (e : Event) : Decidable e.Unsolicited := inferInstanceAs (Decidable (_ ∨ _))

end Event

/-- The opcode of a command; a data frame is not answered. -/
def commandOp : Message → Option (BitVec 16)
  | .command op _ => some op
  | .data _ _ _ => none

def commandOps (ms : List Message) : List (BitVec 16) := ms.filterMap commandOp

def answersOf (es : List Event) : List Event := es.filter fun e => !decide e.Unsolicited

/-- The driver with the opcodes of the commands it was asked for; the device with the number
of messages it has taken off the bus, the events it has still to send and the answers it has
given; and the answers that the main loop has received. -/
structure Session where
  driver : State
  issued : List (BitVec 16)
  taken : ℕ
  outbox : List Event
  given : List Event
  handled : List Event

inductive Label
  | call (k : Call)
  | take (result : List Byte)
  | unsolicited (e : Event)
  | service (later : Mem)

/-- A request is made of a ready driver only. -/
def Allowed : Call → State → Prop
  | .request _, s => s.cc3000IsReady = 1
  | .send _ _ _ _, _ => True
  | .stop, _ => False

instance : (k : Call) → (s : State) → Decidable (Allowed k s)
  | .request _, s => inferInstanceAs (Decidable (s.cc3000IsReady = 1))
  | .send _ _ _ _, _ => inferInstanceAs (Decidable True)
  | .stop, _ => inferInstanceAs (Decidable False)

def step (c : Session) : Label → Option Session
  | .call k =>
      if Allowed k c.driver then
        (k.begin c.driver).map fun b =>
          { c with
            driver := b.2.exec b.1
            issued := c.issued ++ commandOps (k.messages c.driver) }
      else none
  | .take result =>
      match (deviceLog c.driver.bus).bind fun ms => ms[c.taken]? with
      | none => none
      | some (.data _ _ _) => some { c with taken := c.taken + 1 }
      | some (.command op _) =>
          if (Event.mk op result).Fits then
            some { c with
              taken := c.taken + 1
              outbox := c.outbox ++ [⟨op, result⟩]
              given := c.given ++ [⟨op, result⟩] }
          else none
  | .unsolicited e =>
      if e.Fits ∧ e.Unsolicited then some { c with outbox := c.outbox ++ [e] } else none
  | .service later =>
      match c.outbox with
      | [] => none
      | e :: rest =>
          some { c with
            driver := (service (arrives (transmission e.frame later) c.driver)).val.2
            outbox := rest
            handled := c.handled ++ answersOf [e] }

/-- The condition on a step: the calls are proper. -/
def Admissible (c : Session) (l : Label) (_ : Session) : Prop :=
  ∀ k, l = .call k → k.Proper c.driver

def opening (miso : ℕ → Byte) : Session := ⟨initial miso, [], 0, [], [], []⟩

theorem expected_eq_opcode (r : Request) (c : Command) (h : r.command = some c) :
    c.expected = c.opcode := by
  cases r with
  | start patchesRequest => simp [Request.command] at h
  | generalReqBufferSize => simp [Request.command] at h
  | socketMdnsAdvertise mdnsEnabled serviceName =>
    simp only [Request.command, Option.ite_none_left_eq_some, Option.some.injEq] at h
    obtain ⟨-, rfl⟩ := h
    rfl
  | wlanConnect ssid secType key =>
    cases key with
    | none => simp [Request.command, cc3000WlanConnect] at h
    | some key =>
      simp only [Request.command, cc3000WlanConnect, Option.some.injEq] at h
      subst h
      rfl
  | wlanAddProfile profile =>
    simp only [Request.command, Profile.command, Option.map_eq_some_iff] at h
    obtain ⟨pair, -, rfl⟩ := h
    rfl
  | _ =>
    simp only [Request.command, Option.some.injEq] at h
    subst h
    rfl

/-- A call makes the driver wait for what its messages ask for. -/
structure Asks (k : Call) (s t : State) : Prop where
  carries : ∀ ms, Carries s.bus ms → Carries t.bus (ms ++ k.messages s)
  currentState : t.currentState = s.currentState
  returnBuffer : t.returnBuffer = s.returnBuffer
  waits : (commandOps (k.messages s) = [] ∧ t.desiredState = s.desiredState ∧
      t.expect = s.expect) ∨
    ∃ op ∈ armedOpcodes, commandOps (k.messages s) = [op] ∧
      t.desiredState = s.desiredState + 1 ∧ t.expect = op

theorem carries_of_begins {k : Call} {s t : State} {p : Prog} (h : Begins k s t p)
    (ms : List Message) (hs : Carries s.bus ms) :
    Carries (p.exec t).bus (ms ++ k.messages s) := by
  rw [bus_exec_trace, h.bus]
  exact hs.append ⟨h.fits, _, h.trace, filter_writes _⟩

theorem raises_of_mem {r : Request} {p : Prog} (hp : r.prog = some p) {op : BitVec 16}
    (hmem : .hciExpect op ∈ p) : op ∈ armedOpcodes ∧ Raises op p := by
  rcases prog_raises r p hp with rfl | ⟨op', hop', hraises⟩
  · exact absurd hmem List.not_mem_nil
  · rw [hraises.only op hmem]
    exact ⟨hop', hraises⟩

/-- A request asks with one command, or with none when it rejects its argument. -/
theorem request_asks {r : Request} {s : State} {p : Prog} (hp : r.prog = some p)
    (hproper : Call.Proper (.request r) s) :
    (p = [] ∧ commandOps (Call.messages (.request r) s) = []) ∨
      ∃ op, commandOps (Call.messages (.request r) s) = [op] ∧ op ∈ armedOpcodes ∧
        Raises op p := by
  cases hc : r.command with
  | some c =>
    have hops : commandOps (Call.messages (.request r) s) = [c.opcode] := by
      rw [messages_of_command hc]
      rfl
    refine Or.inr ⟨c.opcode, hops, raises_of_mem hp ?_⟩
    rw [prog_of_command r c hc, Option.some.injEq] at hp
    rw [← hp, ← expected_eq_opcode r c hc]
    simp [Command.prog]
  | none =>
    obtain ⟨patchesRequest, rfl⟩ | rfl | ⟨mdnsEnabled, serviceName, rfl, -, rfl⟩ |
      ⟨profile, rfl, hknown⟩ := cases_of_command_none r p hp hc
    · refine Or.inr ⟨hciCmndSimpleLinkStart, rfl, raises_of_mem hp ?_⟩
      rw [← Option.some.inj hp]
      simp [cc3000Start]
    · refine Or.inr ⟨hciCmndReadBufferSize, rfl, raises_of_mem hp ?_⟩
      rw [← Option.some.inj hp]
      simp [cc3000GeneralReqBufferSize]
    · refine Or.inl ⟨rfl, ?_⟩
      simp only [Call.messages, hc]
      rfl
    · exact absurd hproper.1 hknown

theorem asks_of_begin {k : Call} {s t : State} {p : Prog} (hproper : k.Proper s)
    (hbegin : k.begin s = some (t, p)) : Asks k s (p.exec t) := by
  have hcarries := carries_of_begins (begins_of_proper hproper hbegin)
  obtain ⟨hcurrent, hreturn, -⟩ := p.exec_received t
  cases k with
  | request r =>
    simp only [Call.begin, Option.map_eq_some_iff, Prod.mk.injEq] at hbegin
    obtain ⟨p', hp, rfl, rfl⟩ := hbegin
    refine ⟨hcarries, hcurrent, hreturn, ?_⟩
    rcases request_asks hp hproper with ⟨rfl, hnone⟩ | ⟨op, hone, hop, hraises⟩
    · exact Or.inl ⟨hnone, rfl, rfl⟩
    · have hdone := requested_of_raises hraises s
      exact Or.inr ⟨op, hop, hone, hdone.desiredState, hdone.expect⟩
  | send sd buf len flags =>
    have hexec := exec_begin_send sd buf len flags s
    rw [hbegin, Option.map_some, Option.some.injEq] at hexec
    have hexec' : p.exec t = (cc3000Send sd buf len flags s).2 := hexec
    by_cases hfree : s.freeBuffers = 0#8
    · have hsame : (cc3000Send sd buf len flags s).2 = s := by
        rw [cc3000Send, if_pos hfree]
      rw [hsame] at hexec'
      refine ⟨hcarries, ?_, ?_, Or.inl ⟨?_, ?_, ?_⟩⟩
      · rw [hexec']
      · rw [hexec']
      · simp only [Call.messages, if_pos hfree]
        rfl
      · rw [hexec']
      · rw [hexec']
    · rw [SendFrames.cc3000Send_of_free sd buf len flags s hfree] at hexec'
      refine ⟨hcarries, ?_, ?_, Or.inl ⟨?_, ?_, ?_⟩⟩
      · rw [hexec']
      · rw [hexec']
      · simp only [Call.messages, if_neg hfree]
        rfl
      · rw [hexec']
      · rw [hexec']
  | stop =>
    simp only [Call.begin, Option.some.injEq, Prod.mk.injEq] at hbegin
    obtain ⟨rfl, rfl⟩ := hbegin
    have hdesired : (cc3000Stop.exec s).desiredState = s.desiredState := rfl
    have hexpect : (cc3000Stop.exec s).expect = s.expect := rfl
    exact ⟨hcarries, hcurrent, hreturn, Or.inl ⟨rfl, hdesired, hexpect⟩⟩

section Events

variable {e : Event} {data : Mem} {s : State}

theorem length_frame (e : Event) : e.frame.length = 5 + e.args.length := by
  simp only [Event.frame, eventFrame, List.length_append, List.length_cons, List.length_nil]

theorem length_lt_of_fits (hfits : e.Fits) : e.args.length < 256 := by
  have hsize : cc300SpiRxBufferSize = 250 := rfl
  unfold Event.Fits at hfits
  omega

/-- An answer that is waited for settles the request, and once only. -/
theorem handle_answer (hdata : Holds data 0 e.frame) (hfits : e.Fits)
    (hop : e.op ∈ armedOpcodes) (hexpect : s.expect = e.op) :
    handle data (handle data s) = handle data s ∧
      (handle data s).currentState = s.currentState + 1 ∧ (handle data s).expect = 0 ∧
      (NormalEvent e.op → Holds (handle data s).returnBuffer 0 e.args) := by
  obtain ⟨hnonzero, -, hfree, -, -⟩ := armedOpcodes_spec e.op hop
  have hframe : frameOpcode data = some e.op := frameOpcode_event hdata
  have hshort := length_lt_of_fits hfits
  refine ⟨?_, ?_, ?_, ?_⟩
  · rw [handle_handle_iff]
    refine ⟨if_neg ?_, ?_⟩
    · intro hevent
      exact hfree (Option.some.inj (hframe.symm.trans (frameOpcode_of_isEvent hevent)))
    · intro hidle
      exact absurd (hexpect.symm.trans hidle) hnonzero
  · rw [handle_currentState, hframe, hexpect, if_pos rfl]
  · rw [handle_expect, hframe, hexpect, if_pos rfl]
  · intro hnormal
    rw [handle_returnBuffer, copyReturn_event hdata hshort, if_pos hnormal]
    exact holds_overlay (event_args hdata)

theorem not_normal_of_unsolicited (hevent : e.Unsolicited) : ¬ NormalEvent e.op := by
  intro hnormal
  rcases hevent with hfree | hbit
  · rw [hfree] at hnormal
    exact absurd hnormal.1 (by decide)
  · exact hbit hnormal.2.1

/-- An unsolicited event leaves alone what belongs to the request. -/
theorem handle_unsolicited (hdata : Holds data 0 e.frame) (hfits : e.Fits)
    (hevent : e.Unsolicited) (hexpect : s.expect = 0 ∨ s.expect ∈ armedOpcodes) :
    (handle data s).currentState = s.currentState ∧ (handle data s).expect = s.expect ∧
      (handle data s).returnBuffer = s.returnBuffer := by
  have hmiss : frameOpcode data ≠ some s.expect := by
    rw [frameOpcode_event hdata]
    intro heq
    have hop : e.op = s.expect := Option.some.inj heq
    unfold Event.Unsolicited at hevent
    rw [hop] at hevent
    rcases hexpect with hzero | hmem
    · rw [hzero] at hevent
      exact absurd hevent (by decide)
    · obtain ⟨-, -, hfree, hwlan, -⟩ := armedOpcodes_spec s.expect hmem
      exact hevent.elim hfree (fun hbit => hbit hwlan)
  have hshort := length_lt_of_fits hfits
  refine ⟨?_, ?_, ?_⟩
  · rw [handle_currentState, if_neg hmiss]
  · rw [handle_expect, if_neg hmiss]
  · rw [handle_returnBuffer, copyReturn_event hdata hshort,
      if_neg (not_normal_of_unsolicited hevent)]

theorem handle_unsolicited_twice (hdata : Holds data 0 e.frame) (hfits : e.Fits)
    (hevent : e.Unsolicited) (hexpect : s.expect = 0 ∨ s.expect ∈ armedOpcodes) :
    (handle data (handle data s)).currentState = s.currentState ∧
      (handle data (handle data s)).expect = s.expect ∧
      (handle data (handle data s)).returnBuffer = s.returnBuffer := by
  obtain ⟨hcurrent, hsame, hbuffer⟩ := handle_unsolicited hdata hfits hevent hexpect
  rw [← hsame] at hexpect
  obtain ⟨hcurrent', hsame', hbuffer'⟩ := handle_unsolicited hdata hfits hevent hexpect
  exact ⟨hcurrent'.trans hcurrent, hsame'.trans hsame, hbuffer'.trans hbuffer⟩

/-- The main loop hands a transmitted event to the handler, twice. -/
theorem service_event (hfits : e.Fits) (later : Mem) (s : State) :
    ∃ data, Holds data 0 e.frame ∧
      (service (arrives (transmission e.frame later) s)).val.2.globals =
        (handle data (handle data s)).globals := by
  have hlength := length_frame e
  have hne : e.frame ≠ [] := List.ne_nil_of_length_pos (by omega)
  have hframe : e.frame.length ≤ cc300SpiRxBufferSize := by
    rw [hlength]
    exact hfits
  obtain ⟨haccept, hbuffer⟩ := receivedBuffer_transmission hne hframe later
    (arrives (transmission e.frame later) s) rfl rfl
  obtain ⟨-, hglobals⟩ := service_of_accepts _ haccept
  have harrives : (arrives (transmission e.frame later) s).globals = s.globals := rfl
  refine ⟨_, holds_withPrefix e.frame s.spiRxBuffer, ?_⟩
  rw [hglobals, hbuffer, handle_globals, handle_globals, harrives, ← handle_globals,
    ← handle_globals]
  rfl

end Events

/-- The driver is idle, or waits for the answer to the last command. -/
def InStep (s : State) (issued : List (BitVec 16)) (handled : List Event) : Prop :=
  (s.desiredState = s.currentState ∧ s.expect = 0 ∧ handled.map Event.op = issued) ∨
    (s.desiredState = s.currentState + 1 ∧ s.expect ∈ armedOpcodes ∧
      handled.map Event.op ++ [s.expect] = issued)

/-- The return buffer holds the arguments of the last answer that is copied at all. -/
def Holding (s : State) (handled : List Event) : Prop :=
  ∀ e, handled.getLast? = some e → NormalEvent e.op → Holds s.returnBuffer 0 e.args

/-- The parties agree: what the bus has carried is what was asked for, what the device has
given is what it has taken, and what it has given is handled or still to be sent. -/
structure Agrees (c : Session) (ms : List Message) : Prop where
  bus : Carries c.driver.bus ms
  issued : commandOps ms = c.issued
  armed : ∀ op ∈ c.issued, op ∈ armedOpcodes
  taken : c.taken ≤ ms.length
  given : c.given.map Event.op = commandOps (ms.take c.taken)
  queue : c.given = c.handled ++ answersOf c.outbox
  fits : ∀ e ∈ c.outbox, e.Fits
  inStep : InStep c.driver c.issued c.handled
  holding : Holding c.driver c.handled

theorem commandOps_append (xs ys : List Message) :
    commandOps (xs ++ ys) = commandOps xs ++ commandOps ys := List.filterMap_append

theorem answersOf_append (xs ys : List Event) :
    answersOf (xs ++ ys) = answersOf xs ++ answersOf ys := List.filter_append ..

theorem answersOf_answer {e : Event} (h : ¬ e.Unsolicited) : answersOf [e] = [e] := by
  simp [answersOf, h]

theorem answersOf_unsolicited {e : Event} (h : e.Unsolicited) : answersOf [e] = [] := by
  simp [answersOf, h]

theorem not_unsolicited_of_armed {e : Event} (h : e.op ∈ armedOpcodes) : ¬ e.Unsolicited := by
  obtain ⟨-, -, hfree, hwlan, -⟩ := armedOpcodes_spec e.op h
  exact fun hevent => hevent.elim hfree (fun hbit => hbit hwlan)

/-- Of a longer list of messages no other are taken. -/
theorem commandOps_take (xs ys : List Message) {n : ℕ} (hn : n ≤ xs.length) :
    commandOps ((xs ++ ys).take n) = commandOps (xs.take n) := by
  rw [List.take_append_of_le_length hn]

theorem commandOps_take_succ {ms : List Message} {n : ℕ} {m : Message} (h : ms[n]? = some m) :
    commandOps (ms.take (n + 1)) = commandOps (ms.take n) ++ commandOps [m] := by
  rw [List.take_add_one, h, commandOps_append]
  rfl

section Steps

variable {c t : Session} {ms : List Message}

theorem InStep.of_ready {s : State} {issued : List (BitVec 16)} {handled : List Event}
    (h : InStep s issued handled) (hready : s.cc3000IsReady = 1) :
    s.expect = 0 ∧ handled.map Event.op = issued := by
  rw [State.cc3000IsReady_eq_one] at hready
  rcases h with ⟨-, hexpect, hops⟩ | ⟨hdesired, -, -⟩
  · exact ⟨hexpect, hops⟩
  · rw [hready] at hdesired
    exact absurd (BitVec.self_eq_add_right.mp hdesired) (by decide)

theorem ready_of_command {k : Call} {s : State} (h : Allowed k s) {op : BitVec 16}
    (hone : commandOps (k.messages s) = [op]) : s.cc3000IsReady = 1 := by
  cases k with
  | request r => exact h
  | send sd buf len flags =>
    simp only [Call.messages] at hone
    split at hone
    · exact absurd hone (List.cons_ne_nil op []).symm
    · exact absurd hone (List.cons_ne_nil op []).symm
  | stop => exact absurd h id

theorem agrees_call (h : Agrees c ms) {k : Call} {s : State} (hready : Allowed k c.driver)
    (hasks : Asks k c.driver s) :
    Agrees { c with driver := s, issued := c.issued ++ commandOps (k.messages c.driver) }
      (ms ++ k.messages c.driver) := by
  obtain ⟨hcarries, hcurrent, hreturn, hwaits⟩ := hasks
  have hholding : Holding s c.handled := by
    intro e he hnormal
    rw [hreturn]
    exact h.holding e he hnormal
  refine ⟨hcarries ms h.bus, ?_, ?_, ?_, ?_, h.queue, h.fits, ?_, hholding⟩
  · rw [commandOps_append, h.issued]
  · intro op hop
    rcases List.mem_append.mp hop with hop | hop
    · exact h.armed op hop
    · rcases hwaits with ⟨hnone, -, -⟩ | ⟨op', hop', hone, -, -⟩
      · rw [hnone] at hop
        exact absurd hop List.not_mem_nil
      · rw [hone, List.mem_singleton] at hop
        rw [hop]
        exact hop'
  · have hle := h.taken
    rw [List.length_append]
    exact Nat.le_trans hle (Nat.le_add_right _ _)
  · rw [commandOps_take ms _ h.taken]
    exact h.given
  · rcases hwaits with ⟨hnone, hdesired, hexpect⟩ | ⟨op, hop, hone, hdesired, hexpect⟩
    · have hin := h.inStep
      unfold InStep at hin ⊢
      rw [hnone, List.append_nil, hdesired, hcurrent, hexpect]
      exact hin
    · obtain ⟨-, hops⟩ := h.inStep.of_ready (ready_of_command hready hone)
      have hcounters := (State.cc3000IsReady_eq_one _).mp (ready_of_command hready hone)
      refine Or.inr ⟨?_, ?_, ?_⟩
      · rw [hdesired, hcurrent, hcounters]
      · rw [hexpect]
        exact hop
      · rw [hexpect, hone, hops]

theorem agrees_take_data (h : Agrees c ms) {op : Byte} {args payload : List Byte}
    (hat : ms[c.taken]? = some (.data op args payload)) :
    Agrees { c with taken := c.taken + 1 } ms := by
  obtain ⟨hbus, hissued, harmed, htaken, hgiven, hqueue, hfits, hin, hholding⟩ := h
  have hlt : c.taken < ms.length := (List.getElem?_eq_some_iff.mp hat).1
  have hnone : commandOps [.data op args payload] = [] := rfl
  refine ⟨hbus, hissued, harmed, hlt, ?_, hqueue, hfits, hin, hholding⟩
  change c.given.map Event.op = commandOps (ms.take (c.taken + 1))
  rw [commandOps_take_succ hat, hnone, List.append_nil]
  exact hgiven

/-- The device takes a command and puts its answer behind what it has still to send. -/
theorem agrees_take_command (h : Agrees c ms) {op : BitVec 16} {args result : List Byte}
    (hat : ms[c.taken]? = some (.command op args)) (hresult : (Event.mk op result).Fits) :
    Agrees { c with
      taken := c.taken + 1
      outbox := c.outbox ++ [⟨op, result⟩]
      given := c.given ++ [⟨op, result⟩] } ms := by
  obtain ⟨hbus, hissued, harmed, htaken, hgiven, hqueue, hfits, hin, hholding⟩ := h
  obtain ⟨hlt, hget⟩ := List.getElem?_eq_some_iff.mp hat
  have hone : commandOps [.command op args] = [op] := rfl
  have hop : op ∈ armedOpcodes := by
    apply harmed
    rw [← hissued, commandOps, List.mem_filterMap]
    exact ⟨_, List.mem_of_getElem? hat, rfl⟩
  have hanswer : answersOf [⟨op, result⟩] = [⟨op, result⟩] :=
    answersOf_answer (not_unsolicited_of_armed (e := ⟨op, result⟩) hop)
  refine ⟨hbus, hissued, harmed, hlt, ?_, ?_, ?_, hin, hholding⟩
  · change (c.given ++ [_]).map Event.op = commandOps (ms.take (c.taken + 1))
    rw [commandOps_take_succ hat, hone, List.map_append, hgiven]
    rfl
  · change c.given ++ [_] = c.handled ++ answersOf (c.outbox ++ [_])
    rw [answersOf_append, hanswer, hqueue, List.append_assoc]
  · intro e he
    rcases List.mem_append.mp he with he | he
    · exact hfits e he
    · rw [List.mem_singleton.mp he]
      exact hresult

theorem agrees_unsolicited (h : Agrees c ms) {e : Event} (hfits : e.Fits)
    (hevent : e.Unsolicited) : Agrees { c with outbox := c.outbox ++ [e] } ms := by
  refine ⟨h.bus, h.issued, h.armed, h.taken, h.given, ?_, ?_, h.inStep, h.holding⟩
  · change c.given = c.handled ++ answersOf (c.outbox ++ [e])
    rw [answersOf_append, answersOf_unsolicited hevent, List.append_nil]
    exact h.queue
  · intro e' he'
    rcases List.mem_append.mp he' with he' | he'
    · exact h.fits e' he'
    · rw [List.mem_singleton.mp he']
      exact hfits

/-- The first answer that is still to be handled is the one that the driver waits for. -/
theorem Agrees.awaited (h : Agrees c ms) {e : Event} {rest : List Event}
    (hqueue : answersOf c.outbox = e :: rest) :
    c.driver.desiredState = c.driver.currentState + 1 ∧ c.driver.expect = e.op ∧
      c.handled.map Event.op ++ [e.op] = c.issued ∧ e.op ∈ armedOpcodes := by
  have hops : commandOps (ms.take c.taken) ++ commandOps (ms.drop c.taken) = c.issued := by
    rw [← commandOps_append, List.take_append_drop]
    exact h.issued
  rw [← h.given, h.queue, hqueue, List.map_append, List.map_cons, List.append_assoc] at hops
  rcases h.inStep with ⟨-, -, hall⟩ | ⟨hdesired, hexpect, hall⟩
  · have hlength := congrArg List.length (hall.trans hops.symm)
    simp only [List.length_append, List.length_cons] at hlength
    omega
  · rw [← hops, List.append_cancel_left_eq, List.cons_append, List.cons.injEq] at hall
    have hnil : c.handled.map Event.op ++ [e.op] = c.issued := by
      rw [← hops, List.cons_append, ← hall.2]
    rw [hall.1] at hexpect
    exact ⟨hdesired, hall.1, hnil, hexpect⟩

/-- Handling the next event settles the request that it answers, or none. -/
theorem agrees_service (h : Agrees c ms) {e : Event} {rest : List Event}
    (houtbox : c.outbox = e :: rest) (later : Mem) :
    Agrees { c with
      driver := (service (arrives (transmission e.frame later) c.driver)).val.2
      outbox := rest
      handled := c.handled ++ answersOf [e] } ms := by
  have hfits : e.Fits := h.fits e (by rw [houtbox]; exact List.mem_cons_self)
  have hrest : ∀ e' ∈ rest, e'.Fits := by
    intro e' he'
    apply h.fits
    rw [houtbox]
    exact List.mem_cons_of_mem e he'
  have hcarries := (receives_service c.driver (transmission e.frame later)).carries h.bus
  obtain ⟨data, hdata, hglobals⟩ := service_event hfits later c.driver
  have hsplit : answersOf c.outbox = answersOf [e] ++ answersOf rest := by
    rw [← answersOf_append, List.singleton_append, houtbox]
  have hqueue : c.given = (c.handled ++ answersOf [e]) ++ answersOf rest := by
    rw [h.queue, hsplit, List.append_assoc]
  generalize (service (arrives (transmission e.frame later) c.driver)).val.2 = s
    at hcarries hglobals
  have hdesired := congrArg State.desiredState hglobals
  have hcurrent := congrArg State.currentState hglobals
  have hexpect := congrArg State.expect hglobals
  have hbuffer := congrArg State.returnBuffer hglobals
  simp only [State.globals, handle_desiredState] at hdesired hcurrent hexpect hbuffer
  by_cases hevent : e.Unsolicited
  · have hidle : c.driver.expect = 0 ∨ c.driver.expect ∈ armedOpcodes := by
      rcases h.inStep with ⟨-, hzero, -⟩ | ⟨-, hmem, -⟩
      · exact Or.inl hzero
      · exact Or.inr hmem
    obtain ⟨hcurrent', hexpect', hbuffer'⟩ :=
      handle_unsolicited_twice hdata hfits hevent hidle
    rw [hcurrent'] at hcurrent
    rw [hexpect'] at hexpect
    rw [hbuffer'] at hbuffer
    rw [answersOf_unsolicited hevent, List.append_nil] at hqueue ⊢
    refine ⟨hcarries, h.issued, h.armed, h.taken, h.given, hqueue, hrest, ?_, ?_⟩
    · unfold InStep
      rw [hdesired, hcurrent, hexpect]
      exact h.inStep
    · intro e' he' hnormal
      rw [hbuffer]
      exact h.holding e' he' hnormal
  · rw [answersOf_answer hevent] at hsplit hqueue ⊢
    obtain ⟨hone, harmed, hops, hop⟩ := h.awaited hsplit
    obtain ⟨htwice, hcurrent', hexpect', hbuffer'⟩ := handle_answer hdata hfits hop harmed
    rw [htwice] at hcurrent hexpect hbuffer
    refine ⟨hcarries, h.issued, h.armed, h.taken, h.given, hqueue, hrest, Or.inl ⟨?_, ?_, ?_⟩, ?_⟩
    · rw [hdesired, hcurrent, hcurrent', hone]
    · rw [hexpect, hexpect']
    · rw [List.map_append]
      exact hops
    · intro e' he' hnormal
      rw [List.getLast?_append, List.getLast?_singleton, Option.some_or, Option.some.injEq] at he'
      rw [hbuffer]
      rw [← he'] at hnormal ⊢
      exact hbuffer' hnormal

def sentBy (c : Session) : Label → List Message
  | .call k => k.messages c.driver
  | .take _ => []
  | .unsolicited _ => []
  | .service _ => []

/-- The device takes the next message, and answers it when it is a command. -/
theorem step_take (hbus : Carries c.driver.bus ms) {result : List Byte}
    (hstep : Takes step c (.take result) t) :
    (∃ op args payload, ms[c.taken]? = some (.data op args payload) ∧
      t = { c with taken := c.taken + 1 }) ∨
    (∃ op args, ms[c.taken]? = some (.command op args) ∧ (Event.mk op result).Fits ∧
      t = { c with
        taken := c.taken + 1
        outbox := c.outbox ++ [⟨op, result⟩]
        given := c.given ++ [⟨op, result⟩] }) := by
  unfold Takes step at hstep
  simp only [hbus.deviceLog, Option.bind_some] at hstep
  cases hat : ms[c.taken]? with
  | none => simp [hat] at hstep
  | some m =>
    cases m with
    | command op args =>
      simp only [hat, Option.ite_none_right_eq_some, Option.some.injEq] at hstep
      exact Or.inr ⟨op, args, rfl, hstep.1, hstep.2.symm⟩
    | data op args payload =>
      simp only [hat, Option.some.injEq] at hstep
      exact Or.inl ⟨op, args, payload, rfl, hstep.symm⟩

theorem step_service {later : Mem} (hstep : Takes step c (.service later) t) :
    ∃ e rest, c.outbox = e :: rest ∧
      t = { c with
        driver := (service (arrives (transmission e.frame later) c.driver)).val.2
        outbox := rest
        handled := c.handled ++ answersOf [e] } := by
  unfold Takes step at hstep
  cases houtbox : c.outbox with
  | nil => simp [houtbox] at hstep
  | cons e rest =>
    simp only [houtbox, Option.some.injEq] at hstep
    exact ⟨e, rest, rfl, hstep.symm⟩

theorem agrees_step {l : Label} (h : Agrees c ms) (hstep : Takes step c l t)
    (hadmissible : Admissible c l t) : Agrees t (ms ++ sentBy c l) := by
  cases l with
  | call k =>
    unfold Takes step at hstep
    simp only [Option.ite_none_right_eq_some, Option.map_eq_some_iff] at hstep
    obtain ⟨hready, ⟨s, p⟩, hbegin, rfl⟩ := hstep
    exact agrees_call h hready (asks_of_begin (hadmissible k rfl) hbegin)
  | take result =>
    rw [sentBy, List.append_nil]
    obtain ⟨op, args, payload, hat, rfl⟩ | ⟨op, args, hat, hresult, rfl⟩ := step_take h.bus hstep
    · exact agrees_take_data h hat
    · exact agrees_take_command h hat hresult
  | unsolicited e =>
    rw [sentBy, List.append_nil]
    unfold Takes step at hstep
    simp only [Option.ite_none_right_eq_some, Option.some.injEq] at hstep
    obtain ⟨⟨hfits, hevent⟩, rfl⟩ := hstep
    exact agrees_unsolicited h hfits hevent
  | service later =>
    rw [sentBy, List.append_nil]
    obtain ⟨e, rest, houtbox, rfl⟩ := step_service hstep
    exact agrees_service h houtbox later

end Steps

theorem agrees_opening (miso : ℕ → Byte) : Agrees (opening miso) [] := by
  refine ⟨carries_nil, rfl, ?_, Nat.zero_le _, rfl, rfl, ?_, Or.inl ⟨rfl, rfl, rfl⟩, ?_⟩
  · exact fun _ hop => absurd hop List.not_mem_nil
  · exact fun _ he => absurd he List.not_mem_nil
  · exact fun _ he => absurd he (Option.some_ne_none _).symm

theorem agrees_of_run {miso : ℕ → Byte} {ls : List Label} {c : Session}
    (hadmissible : Along (Takes step) Admissible (opening miso) ls)
    (hrun : Run (Takes step) (opening miso) ls c) : ∃ ms, Agrees c ms := by
  apply hrun.invariant_along (I := fun c => ∃ ms, Agrees c ms) _ hadmissible
  · exact ⟨[], agrees_opening miso⟩
  · rintro c l t ⟨ms, h⟩ hstep hcond
    exact ⟨_, agrees_step h hstep hcond⟩

/-- For every session with proper calls. The answers handled are those the device has given,
in order, to the commands issued, in order; at most one command is without an answer, and
none exactly when the driver is ready; and the return buffer holds the arguments of the last
answer of a kind that is copied. -/
theorem answers_match (miso : ℕ → Byte) (ls : List Label)
    (hadmissible : Along (Takes step) Admissible (opening miso) ls) (c : Session)
    (hrun : Run (Takes step) (opening miso) ls c) :
    (∃ ms, deviceLog c.driver.bus = some ms ∧ commandOps ms = c.issued) ∧
    c.handled <+: c.given ∧ c.handled.map Event.op <+: c.issued ∧
    c.issued.length ≤ c.handled.length + 1 ∧
    (c.driver.cc3000IsReady = 1 ↔ c.handled.map Event.op = c.issued) ∧
    ∀ e, c.handled.getLast? = some e → NormalEvent e.op →
      Holds c.driver.returnBuffer 0 e.args := by
  obtain ⟨ms, h⟩ := agrees_of_run hadmissible hrun
  have hready := State.cc3000IsReady_eq_one c.driver
  refine ⟨⟨ms, h.bus.deviceLog, h.issued⟩, ⟨_, h.queue.symm⟩, ?_, ?_, ?_, h.holding⟩
  · rcases h.inStep with ⟨-, -, hall⟩ | ⟨-, -, hall⟩
    · exact ⟨[], by rw [List.append_nil, hall]⟩
    · exact ⟨_, hall⟩
  · rcases h.inStep with ⟨-, -, hall⟩ | ⟨-, -, hall⟩
    · rw [← hall, List.length_map]
      omega
    · rw [← hall, List.length_append, List.length_map, List.length_singleton]
  · constructor
    · exact fun hyes => (h.inStep.of_ready hyes).2
    · intro hall
      rcases h.inStep with ⟨hsame, -, -⟩ | ⟨-, -, hmore⟩
      · exact hready.mpr hsame
      · have hlength := congrArg List.length (hmore.trans hall.symm)
        simp at hlength

/-- The device is started; before its answer, it reports a connection. -/
def startLabels : List Label :=
  [.call (.request (.start 0)), .unsolicited ⟨hciEvntWlanUnsolConnect, [0]⟩, .take [0],
    .service fun _ => 0]

theorem along_startLabels : Along (Takes step) Admissible (opening fun _ => 0) startLabels := by
  intro t _
  refine ⟨fun k hk => ?_, along_of_labels (P := fun l => ∀ k, l ≠ .call k) ?_ ?_ t⟩
  · cases hk
    rfl
  · exact fun _ _ _ hl k hk => absurd hk (hl k)
  · intro l hl k hk
    rw [hk] at hl
    simp at hl

theorem run_startLabels :
    ∃ c t, Run (Takes step) (opening fun _ => 0) startLabels c ∧
      Run (Takes step) c [.service fun _ => 0] t :=
  ⟨_, _, Run.cons rfl (Run.cons rfl (Run.cons rfl (Run.cons rfl (Run.nil _)))),
    Run.cons rfl (Run.nil _)⟩

theorem answers_match_start :
    ∃ c, Run (Takes step) (opening fun _ => 0) startLabels c ∧
      (∃ ms, deviceLog c.driver.bus = some ms ∧ commandOps ms = c.issued) ∧
      c.handled <+: c.given ∧ c.handled.map Event.op <+: c.issued ∧
      c.issued.length ≤ c.handled.length + 1 ∧
      (c.driver.cc3000IsReady = 1 ↔ c.handled.map Event.op = c.issued) ∧
      ∀ e, c.handled.getLast? = some e → NormalEvent e.op →
        Holds c.driver.returnBuffer 0 e.args := by
  obtain ⟨c, -, hrun, -⟩ := run_startLabels
  exact ⟨c, hrun, answers_match (fun _ => 0) startLabels along_startLabels c hrun⟩

/-- The steps that bring the answers in: the device takes a message, or the main loop
receives. -/
def Label.Proceeds : Label → Prop
  | .take _ => True
  | .service _ => True
  | _ => False

/-- What is still to be done: a message is taken and its answer received. -/
def work (c : Session) : ℕ :=
  2 * (((deviceLog c.driver.bus).getD []).length - c.taken) + c.outbox.length

theorem Agrees.work_eq {c : Session} {ms : List Message} (h : Agrees c ms) :
    work c = 2 * (ms.length - c.taken) + c.outbox.length := by
  rw [work, h.bus.deviceLog, Option.getD_some]

theorem proceeds_step {c t : Session} {ms : List Message} {l : Label} (h : Agrees c ms)
    (hl : l.Proceeds) (hstep : Takes step c l t) :
    Agrees t ms ∧ t.issued = c.issued ∧ work t + 1 ≤ work c := by
  have hafter : Agrees t ms := by
    have hsent : sentBy c l = [] := by
      cases l with
      | call k => exact absurd hl id
      | _ => rfl
    have hnext := agrees_step h hstep fun k hk => by
      subst hk
      exact absurd hl id
    rwa [hsent, List.append_nil] at hnext
  have hwork := h.work_eq
  have hwork' := hafter.work_eq
  have htaken := hafter.taken
  cases l with
  | call k => exact absurd hl id
  | unsolicited e => exact absurd hl id
  | take result =>
    obtain ⟨op, args, payload, -, rfl⟩ | ⟨op, args, -, -, rfl⟩ := step_take h.bus hstep
    · refine ⟨hafter, rfl, ?_⟩
      simp only at hwork' htaken
      omega
    · refine ⟨hafter, rfl, ?_⟩
      simp only [List.length_append, List.length_singleton] at hwork' htaken
      omega
  | service later =>
    obtain ⟨e, rest, houtbox, rfl⟩ := step_service hstep
    refine ⟨hafter, rfl, ?_⟩
    rw [houtbox, List.length_cons] at hwork
    simp only at hwork'
    omega

/-- Where no such step is left, every command has been answered and every answer handled. -/
theorem settled_of_stuck {c : Session} {ms : List Message} (h : Agrees c ms)
    (hstuck : ∀ l t, l.Proceeds → ¬ Takes step c l t) :
    c.driver.cc3000IsReady = 1 ∧ c.handled = c.given ∧ c.handled.map Event.op = c.issued := by
  have hnone : ∀ l : Label, l.Proceeds → step c l = none := fun l hl =>
    Option.eq_none_iff_forall_ne_some.mpr fun t => hstuck l t hl
  have houtbox : c.outbox = [] := by
    have hservice := hnone (.service fun _ => 0) trivial
    cases houtbox : c.outbox with
    | nil => rfl
    | cons e rest => simp [step, houtbox] at hservice
  have hall : ms.length ≤ c.taken := by
    by_contra hlt
    have htake := hnone (.take []) trivial
    have hat : ms[c.taken]? = some ms[c.taken] := List.getElem?_eq_getElem (by omega)
    simp only [step, h.bus.deviceLog, Option.bind_some, hat] at htake
    cases hm : ms[c.taken] with
    | command op args =>
      have hempty : (Event.mk op []).Fits := Nat.le_of_ble_eq_true rfl
      simp [hm, hempty] at htake
    | data op args payload => simp [hm] at htake
  have hhandled : c.handled = c.given := by
    rw [h.queue, houtbox]
    exact (List.append_nil _).symm
  have hops : c.handled.map Event.op = c.issued := by
    rw [hhandled, h.given, List.take_of_length_le hall, h.issued]
  refine ⟨?_, hhandled, hops⟩
  rcases h.inStep with ⟨hsame, -, -⟩ | ⟨-, -, hmore⟩
  · exact (State.cc3000IsReady_eq_one _).mpr hsame
  · have hlength := congrArg List.length (hmore.trans hops.symm)
    simp at hlength

/-- From every state of a session, the device and the main loop can go on only for as many
steps as there is work; and where they cannot go on the driver is ready, with the answers
to all commands handled. -/
theorem settles (miso : ℕ → Byte) (ls : List Label)
    (hadmissible : Along (Takes step) Admissible (opening miso) ls) (c : Session)
    (hrun : Run (Takes step) (opening miso) ls c) (ls' : List Label)
    (hproceeds : ∀ l ∈ ls', l.Proceeds) (t : Session) (hrun' : Run (Takes step) c ls' t) :
    ls'.length + work t ≤ work c ∧
      ((∀ l u, l.Proceeds → ¬ Takes step t l u) →
        t.driver.cc3000IsReady = 1 ∧ t.handled = t.given ∧
          t.handled.map Event.op = c.issued) := by
  obtain ⟨ms, h⟩ := agrees_of_run hadmissible hrun
  have hall : Agrees t ms ∧ t.issued = c.issued ∧ ls'.length + work t ≤ work c := by
    clear hrun hadmissible
    induction hrun' with
    | nil c => exact ⟨h, rfl, by simp⟩
    | @cons c u t l ls' hstep _ ih =>
      obtain ⟨hnext, hissued, hless⟩ := proceeds_step h (hproceeds l List.mem_cons_self) hstep
      obtain ⟨hlast, hsame, hbound⟩ :=
        ih (fun l' hl' => hproceeds l' (List.mem_cons_of_mem l hl')) hnext
      refine ⟨hlast, hsame.trans hissued, ?_⟩
      rw [List.length_cons]
      omega
  obtain ⟨hlast, hissued, hbound⟩ := hall
  refine ⟨hbound, fun hstuck => ?_⟩
  rw [← hissued]
  exact settled_of_stuck hlast hstuck

/-- Once the answer is received as well, nothing is left to be done. -/
theorem settles_start :
    ∃ c t, Run (Takes step) (opening fun _ => 0) startLabels c ∧
      Run (Takes step) c [.service fun _ => 0] t ∧
      [Label.service fun _ => 0].length + work t ≤ work c ∧
      ((∀ l u, l.Proceeds → ¬ Takes step t l u) →
        t.driver.cc3000IsReady = 1 ∧ t.handled = t.given ∧
          t.handled.map Event.op = c.issued) := by
  obtain ⟨c, t, hrun, hlast⟩ := run_startLabels
  refine ⟨c, t, hrun, hlast,
    settles (fun _ => 0) startLabels along_startLabels c hrun _ ?_ t hlast⟩
  intro l hl
  rw [List.mem_singleton.mp hl]
  trivial

end Cc3000Async.DeviceSession
