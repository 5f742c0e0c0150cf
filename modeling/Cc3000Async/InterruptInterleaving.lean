import Cc3000Async.AtomicRequests
import Cc3000Async.BusTransactions
import Cc3000Async.SendFrames

/-!
The calls of the application and the reception path on one bus. A call runs its actions
one at a time; a reception comes between any two of them where the interrupt is enabled,
or from the main loop where no call is under way. Every transaction stays whole, and the
device reads off the bus the messages of the calls, in order and nothing else.
-/
namespace Cc3000Async.InterruptInterleaving

open ByteMemory ByteBlocks Brackets TracedAccess LabelledRuns Opcodes DriverState HciFrames
open EventHandler SpiReceive FrameRoundTrip SocketOperations Requests AtomicRequests ServiceLoop
open ArgumentBlocks SendFrames BusTransactions

inductive Call
  | request (r : Request)
  | send (sd : Byte) (buf : Mem) (len : BitVec 16) (flags : Byte)
  | stop

/-- The frame of `cc3000_send`, once it has taken a buffer. -/
def sendProg (sd : Byte) (buf : Mem) (len : BitVec 16) (flags : Byte) : Prog :=
  cc3000HciStartData (hciCmndSend.setWidth 8) 16 len ++
    callsProg (sendCalls sd buf len flags) ++ cc3000HciEndData

/-- What a call does before its first action, and its actions; none when it has no defined
behaviour. A send without a free buffer returns at once. -/
def Call.begin : Call → State → Option (State × Prog)
  | .request r, s => r.prog.map fun p => (s, p)
  | .send sd buf len flags, s =>
      if s.freeBuffers = 0#8 then some (s, [])
      else some ({ s with freeBuffers := s.freeBuffers - 1 }, sendProg sd buf len flags)
  | .stop, s => some (s, cc3000Stop)

def sendArgs (sd : Byte) (len : BitVec 16) (flags : Byte) : List Byte :=
  [toBytes 4 sd.toNat, toBytes 4 12, toBytes 4 len.toNat, toBytes 4 flags.toNat].flatten

def Call.messages : Call → State → List Message
  | .request (.start patchesRequest), _ => [.command hciCmndSimpleLinkStart [patchesRequest]]
  | .request .generalReqBufferSize, _ => [.command hciCmndReadBufferSize []]
  | .request r, _ =>
      match r.command with
      | none => []
      | some c => [.command c.opcode (streamed c.calls)]
  | .send sd buf len flags, s =>
      if s.freeBuffers = 0#8 then []
      else [.data (hciCmndSend.setWidth 8) (sendArgs sd len flags) (bytesFrom buf len.toNat)]
  | .stop, _ => []

/-- The call may be made: a request knows its parameters and streams what it declares, the
device is started with the interrupt off, and a send leaves room for its headers. -/
def Call.Proper : Call → State → Prop
  | .request (.start _), s => s.interruptsEnabled = false
  | .request r, _ =>
      Supported r ∧ ∀ c, r.command = some c → (streamed c.calls).length = c.argsLength.toNat
  | .send _ _ len _, _ => 5 + 16 + len.toNat ≤ 65535
  | .stop, _ => True

/-- A call under way with its remaining actions, the globals, the messages of the calls so
far and what the device has shifted out so far. -/
structure Config where
  rest : Prog
  st : State
  issued : List Message
  replies : List (ℕ → Byte)

inductive Label
  | call (k : Call)
  | act
  | interrupt (reply : ℕ → Byte)
  | service (reply : ℕ → Byte)

def step (c : Config) : Label → Option Config
  | .call k =>
      match c.rest with
      | [] =>
          (k.begin c.st).map fun b =>
            { c with rest := b.2, st := b.1, issued := c.issued ++ k.messages c.st }
      | _ :: _ => none
  | .act =>
      match c.rest with
      | [] => none
      | a :: rest => some { c with rest := rest, st := a.exec c.st }
  | .interrupt reply =>
      if c.st.interruptsEnabled = true then
        some { c with
          st := (cc3000SpiReceive (arrives reply c.st)).val.2, replies := c.replies ++ [reply] }
      else none
  | .service reply =>
      match c.rest with
      | [] =>
          some { c with
            st := (service (arrives reply c.st)).val.2, replies := c.replies ++ [reply] }
      | _ :: _ => none

def Admissible (c : Config) (l : Label) (_ : Config) : Prop := ∀ k, l = .call k → k.Proper c.st

def idle (s : State) : Config := ⟨[], s, [], []⟩

/-- A call that begins leaves the bus as it is, and will add one transaction for each of
its messages, with the interrupt disabled where it asserts chip select. -/
structure Begins (k : Call) (s t : State) (p : Prog) : Prop where
  bus : t.bus = s.bus
  interruptsEnabled : t.interruptsEnabled = s.interruptsEnabled
  trace : transactions (trace t.paddingByteRequired p) =
    some { closed := (k.messages s).map writeTransaction, current := none }
  masked : Masked t.interruptsEnabled p
  fits : ∀ m ∈ k.messages s, m.Fits
  atMostOne : (k.messages s).length ≤ 1

/-- Chip select is asserted once, right after the interrupt is disabled. -/
theorem masked_of_disabled {before after : Prog} (hbefore : Action.assertCs ∉ before)
    (hafter : Action.assertCs ∉ after) (enabled : Bool) :
    Masked enabled (before ++ .interruptDisable :: .assertCs :: after) := by
  induction before generalizing enabled with
  | nil =>
    refine ⟨nofun, fun _ => rfl, ?_⟩
    exact masked_of_not_mem hafter _
  | cons a before ih =>
    rw [List.mem_cons, not_or] at hbefore
    exact ⟨fun ha => absurd ha.symm hbefore.1, ih hbefore.2 _⟩

theorem not_mem_callsProg (calls : List SendCall) : Action.assertCs ∉ callsProg calls := by
  rw [callsProg_eq]
  simp

theorem masked_command (c : Command) (r : Request) (enabled : Bool) :
    Masked enabled (c.prog ++ r.after) := by
  have hafter : Action.assertCs ∉ r.after := by
    cases r <;> simp [Request.after]
  have hcalls := not_mem_callsProg c.calls
  have hsplit : c.prog ++ r.after = [.incDesiredState] ++ .interruptDisable :: .assertCs ::
      ((cc3000HciStartCommand c.opcode c.argsLength).drop 2 ++ callsProg c.calls ++
        cc3000HciEndCommand ++ [.hciExpect c.expected] ++ r.after) := by
    simp [Command.prog, cc3000HciStartCommand, cc3000SpiStartSend]
  rw [hsplit]
  apply masked_of_disabled
  · simp
  · simp [cc3000HciStartCommand, cc3000SpiStartSend, cc3000HciEndCommand, hcalls, hafter]

theorem masked_sendProg (sd : Byte) (buf : Mem) (len : BitVec 16) (flags : Byte)
    (enabled : Bool) : Masked enabled (sendProg sd buf len flags) := by
  have hcalls := not_mem_callsProg (sendCalls sd buf len flags)
  have hsplit : sendProg sd buf len flags = [] ++ .interruptDisable :: .assertCs ::
      ((cc3000HciStartData (hciCmndSend.setWidth 8) 16 len).drop 2 ++
        callsProg (sendCalls sd buf len flags) ++ cc3000HciEndData) := by
    simp [sendProg, cc3000HciStartData, cc3000SpiStartSend]
  rw [hsplit]
  apply masked_of_disabled
  · simp
  · simp [cc3000HciStartData, cc3000SpiStartSend, cc3000HciEndData, hcalls]

theorem trace_command (c : Command) (r : Request)
    (hexact : (streamed c.calls).length = c.argsLength.toNat) (padding : Byte) :
    transactions (trace padding (c.prog ++ r.after)) =
      some {
        closed := [.command c.opcode (streamed c.calls)].map writeTransaction
        current := none } := by
  have htrace : trace padding (c.prog ++ r.after) =
      bracket (frameBytes (.command c.opcode (streamed c.calls))) := by
    apply trace_eq_of_exec
    intro s _
    obtain ⟨hbus, -, -⟩ := exec_after r (c.prog.exec s)
    rw [Prog.exec_append, hbus, c.exec_prog, commandBytes_eq _ _ _ hexact]
  rw [htrace, transactions_bracket]
  rfl

theorem trace_generalReqBufferSize (padding : Byte) :
    transactions (trace padding cc3000GeneralReqBufferSize) =
      some {
        closed := [.command hciCmndReadBufferSize []].map writeTransaction
        current := none } := by
  have htrace : trace padding cc3000GeneralReqBufferSize =
      bracket (frameBytes (.command hciCmndReadBufferSize [])) := by
    apply trace_eq_of_exec
    intro s _
    have hbytes := commandBytes_eq hciCmndReadBufferSize 0 [] rfl
    rw [cc3000GeneralReqBufferSize, Prog.exec_append, Prog.exec_append,
      exec_cc3000HciSendCommand, ← hbytes]
    rfl
  rw [htrace, transactions_bracket]
  rfl

theorem frameBytes_start (patchesRequest : Byte) :
    frameBytes (.command hciCmndSimpleLinkStart [patchesRequest]) =
      [spiOperationWrite, 0, 5, 0, 0, hciTypeCommand,
        (hciCmndSimpleLinkStart &&& 0xff#16).setWidth 8,
        (hciCmndSimpleLinkStart >>> 8).setWidth 8, 1, patchesRequest] := by
  have hpadding : paddingBytes (startSendPadding 5#16) = [] := by decide
  have hheader : spiHeader 5#16 = [spiOperationWrite, 0, 5, 0, 0] := by decide
  have hlength : BitVec.ofNat 16
      (hciBytes (.command hciCmndSimpleLinkStart [patchesRequest])).length = 5#16 := rfl
  rw [frameBytes, hlength, spiWrite, hheader, hpadding]
  rfl

theorem trace_cc3000Start (patchesRequest padding : Byte) :
    transactions (trace padding (cc3000Start patchesRequest)) =
      some {
        closed := [.command hciCmndSimpleLinkStart [patchesRequest]].map writeTransaction
        current := none } := by
  have htrace : trace padding (cc3000Start patchesRequest) =
      [.wlEn false, .waitIrq true, .wlEn true, .waitIrq false, .assertCs] ++
        (frameBytes (.command hciCmndSimpleLinkStart [patchesRequest])).map .send ++
        [.deassertCs, .interruptEnable] := by
    rw [frameBytes_start]
    rfl
  rw [htrace, transactions_sends rfl (fun _ => rfl)]
  rfl

theorem length_sendArgs (sd : Byte) (len : BitVec 16) (flags : Byte) :
    (sendArgs sd len flags).length = 16 := by
  simp only [sendArgs, List.flatten_cons, List.flatten_nil, List.length_append, length_toBytes,
    List.length_nil]

theorem trace_sendProg (sd : Byte) (buf : Mem) (len : BitVec 16) (flags : Byte)
    (hlen : 5 + 16 + len.toNat ≤ 65535) (padding : Byte) :
    transactions (trace padding (sendProg sd buf len flags)) =
      some {
        closed := [.data (hciCmndSend.setWidth 8) (sendArgs sd len flags)
          (bytesFrom buf len.toNat)].map writeTransaction
        current := none } := by
  have hstream : streamed (sendCalls sd buf len flags) =
      sendArgs sd len flags ++ bytesFrom buf len.toNat := by
    rw [streamed_sendCalls, sendArgs]
    simp only [List.flatten_cons, List.flatten_nil, List.append_nil, List.append_assoc]
  have htrace : trace padding (sendProg sd buf len flags) =
      bracket (frameBytes (.data (hciCmndSend.setWidth 8) (sendArgs sd len flags)
        (bytesFrom buf len.toNat))) := by
    apply trace_eq_of_exec
    intro s _
    rw [sendProg, exec_streamData, hstream]
    have hbytes := dataBytes_eq (hciCmndSend.setWidth 8) 16 len (sendArgs sd len flags)
      (bytesFrom buf len.toNat) (length_sendArgs sd len flags) (length_bytesFrom _ _) hlen
    rw [hbytes]
  rw [htrace, transactions_bracket]
  rfl

theorem begins_nothing {k : Call} {s : State} (h : k.messages s = []) : Begins k s s [] := by
  refine ⟨rfl, rfl, ?_, trivial, ?_, ?_⟩
  · rw [h]
    rfl
  · rw [h]
    exact fun m hm => absurd hm List.not_mem_nil
  · rw [h]
    exact Nat.zero_le 1

theorem begins_one {k : Call} {s t : State} {p : Prog} {m : Message} (h : k.messages s = [m])
    (hm : m.Fits) (hbus : t.bus = s.bus) (henabled : t.interruptsEnabled = s.interruptsEnabled)
    (htrace : ∀ padding, transactions (trace padding p) =
      some { closed := [m].map writeTransaction, current := none })
    (hmasked : Masked t.interruptsEnabled p) : Begins k s t p := by
  refine ⟨hbus, henabled, ?_, hmasked, ?_, ?_⟩
  · rw [h]
    exact htrace _
  · intro m' hm'
    rw [h, List.mem_singleton] at hm'
    rw [hm']
    exact hm
  · rw [h]
    exact Nat.le_refl 1

theorem messages_of_command {r : Request} {c : Command} (hc : r.command = some c) (s : State) :
    Call.messages (.request r) s = [.command c.opcode (streamed c.calls)] := by
  cases r with
  | start patchesRequest => simp [Request.command] at hc
  | generalReqBufferSize => simp [Request.command] at hc
  | _ => simp only [Call.messages, hc]

theorem begins_command {r : Request} {c : Command} (hc : r.command = some c) {s : State}
    (hproper : Call.Proper (.request r) s) : Begins (.request r) s s (c.prog ++ r.after) := by
  have hexact : (streamed c.calls).length = c.argsLength.toNat := by
    cases r with
    | start patchesRequest => simp [Request.command] at hc
    | generalReqBufferSize => simp [Request.command] at hc
    | _ => exact hproper.2 c hc
  refine begins_one (messages_of_command hc s) ?_ rfl rfl (trace_command c r hexact)
    (masked_command c r _)
  have hlt := c.argsLength.isLt
  change (streamed c.calls).length ≤ 255
  omega

theorem begins_request {r : Request} {s : State} {p : Prog} (hp : r.prog = some p)
    (hproper : Call.Proper (.request r) s) : Begins (.request r) s s p := by
  cases hc : r.command with
  | some c =>
    rw [prog_of_command r c hc, Option.some.injEq] at hp
    rw [← hp]
    exact begins_command hc hproper
  | none =>
    obtain ⟨patchesRequest, rfl⟩ | rfl | ⟨mdnsEnabled, serviceName, rfl, -, rfl⟩ |
      ⟨profile, rfl, hknown⟩ := cases_of_command_none r p hp hc
    · have hdisabled : s.interruptsEnabled = false := hproper
      have heq : cc3000Start patchesRequest = p := Option.some.inj hp
      rw [← heq]
      refine begins_one rfl ?_ rfl rfl (trace_cc3000Start patchesRequest) ?_
      · exact Nat.le_of_ble_eq_true rfl
      · rw [hdisabled]
        simp [cc3000Start, masked_cons, enabledAfter, Masked]
    · have heq : cc3000GeneralReqBufferSize = p := Option.some.inj hp
      rw [← heq]
      refine begins_one rfl ?_ rfl rfl trace_generalReqBufferSize ?_
      · exact Nat.zero_le 255
      · have hbefore : Action.assertCs ∉ [Action.incDesiredState] := by decide
        have hafter : Action.assertCs ∉ cc3000GeneralReqBufferSize.drop 3 := by decide
        exact masked_of_disabled hbefore hafter _
    · apply begins_nothing
      simp only [Call.messages, hc]
    · exact absurd hproper.1 hknown

theorem begins_of_proper {k : Call} {s t : State} {p : Prog} (hproper : k.Proper s)
    (hbegin : k.begin s = some (t, p)) : Begins k s t p := by
  cases k with
  | request r =>
    simp only [Call.begin, Option.map_eq_some_iff, Prod.mk.injEq] at hbegin
    obtain ⟨p', hp, rfl, rfl⟩ := hbegin
    exact begins_request hp hproper
  | send sd buf len flags =>
    simp only [Call.begin] at hbegin
    by_cases hfree : s.freeBuffers = 0#8
    · rw [if_pos hfree, Option.some.injEq, Prod.mk.injEq] at hbegin
      obtain ⟨rfl, rfl⟩ := hbegin
      exact begins_nothing (if_pos hfree)
    · rw [if_neg hfree, Option.some.injEq, Prod.mk.injEq] at hbegin
      obtain ⟨rfl, rfl⟩ := hbegin
      have hlen : 5 + 16 + len.toNat ≤ 65535 := hproper
      refine begins_one (if_neg hfree) ?_ rfl rfl (trace_sendProg sd buf len flags hlen)
        (masked_sendProg sd buf len flags _)
      constructor
      · rw [length_sendArgs]
        omega
      · rw [length_sendArgs, length_bytesFrom]
        exact hlen
  | stop =>
    simp only [Call.begin, Option.some.injEq, Prod.mk.injEq] at hbegin
    obtain ⟨rfl, rfl⟩ := hbegin
    exact ⟨rfl, rfl, rfl, masked_of_not_mem (by decide) _,
      fun m hm => absurd hm List.not_mem_nil, Nat.zero_le 1⟩

/-- Carried out without a break, the actions of a send are the function. -/
theorem exec_begin_send (sd : Byte) (buf : Mem) (len : BitVec 16) (flags : Byte) (s : State) :
    (Call.begin (.send sd buf len flags) s).map (fun b => b.2.exec b.1) =
      some (cc3000Send sd buf len flags s).2 := by
  by_cases hfree : s.freeBuffers = 0#8
  · simp only [Call.begin, cc3000Send, if_pos hfree]
    rfl
  · simp only [Call.begin, cc3000Send, if_neg hfree]
    rfl

/-- What the bus shows of a configuration: the calls done, those still to be sent, and the
transmissions of the device. -/
structure Shows (c : Config) (r : Reading Transfer) (done pending : List Message) : Prop where
  reading : transactions c.st.bus = some r
  completes : (opened r.current).read (marks (trace c.st.paddingByteRequired c.rest)) =
    some { closed := pending.map writeTransaction, current := none }
  issued : c.issued = done ++ pending
  writes : r.closed.filter isWrite = done.map writeTransaction
  reads : r.closed.filter (fun t => !isWrite t) = c.replies.map readTransaction
  quiet : c.st.interruptsEnabled = true → r.current = none
  masked : Masked c.st.interruptsEnabled c.rest
  fits : ∀ m ∈ c.issued, m.Fits
  atMostOne : pending.length ≤ 1

def Orderly (c : Config) : Prop := ∃ r done pending, Shows c r done pending

section Steps

variable {c t : Config} {r : Reading Transfer} {done pending : List Message}

theorem Shows.at_rest (h : Shows c r done pending) (hrest : c.rest = []) :
    pending = [] ∧ r.current = none := by
  have hcompletes := h.completes
  rw [hrest] at hcompletes
  have heq := Option.some.inj hcompletes
  have hclosed := congrArg Reading.closed heq
  exact ⟨List.map_eq_nil_iff.mp hclosed.symm, congrArg Reading.current heq⟩

theorem Shows.call (h : Shows c r done pending) (hrest : c.rest = []) {k : Call} {s : State}
    {p : Prog} (hbegins : Begins k c.st s p) :
    Shows { c with rest := p, st := s, issued := c.issued ++ k.messages c.st } r done
      (k.messages c.st) := by
  obtain ⟨hpending, hcurrent⟩ := h.at_rest hrest
  have hissued := h.issued
  rw [hpending, List.append_nil] at hissued
  refine ⟨?_, ?_, ?_, h.writes, h.reads, fun _ => hcurrent, hbegins.masked, ?_,
    hbegins.atMostOne⟩
  · rw [hbegins.bus]
    exact h.reading
  · rw [hcurrent]
    exact hbegins.trace
  · rw [hissued]
  · intro m hm
    rcases List.mem_append.mp hm with hm | hm
    · exact h.fits m hm
    · exact hbegins.fits m hm

/-- No event of an action opens a bracket where the interrupt stays enabled, and none that
enables it leaves one open. -/
theorem quiet_after {a : Action} {padding : Byte} {enabled : Bool} {u v : Reading Transfer}
    (hread : u.read (marks (eventsOf padding a)) = some v)
    (hquiet : enabled = true → u.current = none) (hmasked : a = .assertCs → enabled = false)
    (henabled : enabledAfter enabled a = true) : v.current = none := by
  by_cases ha : a = .interruptEnable
  · subst ha
    have hnext : u.next .outside = some v := by
      rw [← hread]
      simp [marks, eventsOf, mark, Reading.read_cons]
    cases hcurrent : u.current with
    | none => exact Reading.current_of_next hnext hcurrent (by simp)
    | some items => simp [Reading.next, hcurrent] at hnext
  · have hbefore : enabled = true := by
      cases a <;> simp_all [enabledAfter]
    have hcurrent := hquiet hbefore
    have hassert : a ≠ .assertCs := by
      intro h
      rw [hmasked h] at hbefore
      exact absurd hbefore Bool.false_ne_true
    have hcases : eventsOf padding a = [] ∨
        ∃ e, eventsOf padding a = [e] ∧ mark e ≠ .opening := by
      cases a with
      | assertCs => exact absurd rfl hassert
      | sendPadding =>
        simp only [eventsOf]
        split
        · exact Or.inr ⟨_, rfl, by simp [mark]⟩
        · exact Or.inl rfl
      | storePadding => exact Or.inl rfl
      | incDesiredState => exact Or.inl rfl
      | hciExpect => exact Or.inl rfl
      | resetState => exact Or.inl rfl
      | setSocketActiveStatus => exact Or.inl rfl
      | _ => exact Or.inr ⟨_, rfl, by simp [mark]⟩
    obtain hnone | ⟨e, hone, hopening⟩ := hcases
    · rw [hnone] at hread
      have heq := Option.some.inj hread
      rw [← heq]
      exact hcurrent
    · have hnext : u.next (mark e) = some v := by
        rw [← hread, hone]
        simp [marks, Reading.read_cons]
      exact Reading.current_of_next hnext hcurrent hopening

/-- An action moves its events from what is to come to what the bus shows. -/
theorem Shows.act (h : Shows c r done pending) {a : Action} {rest : Prog}
    (hrest : c.rest = a :: rest) :
    Orderly { c with rest := rest, st := a.exec c.st } := by
  obtain ⟨hbus, hpadding, henabled⟩ := Action.exec_line a c.st
  have hcompletes := h.completes
  have hmasked := h.masked
  rw [hrest, trace, marks_append] at hcompletes
  rw [hrest, masked_cons] at hmasked
  obtain ⟨u, v, hu, hv, hclosed⟩ := Reading.read_split hcompletes
  have hparts : pending.map writeTransaction = u.closed ++ v.closed :=
    congrArg Reading.closed hclosed
  have hclosedAfter : v.current = none := (congrArg Reading.current hclosed).symm
  obtain ⟨first, second, rfl, hfirst, hsecond⟩ := List.map_eq_append_iff.mp hparts
  have hread : r.read (marks (eventsOf c.st.paddingByteRequired a)) = some (u.behind r.closed) := by
    rw [Reading.read_eq, hu]
    rfl
  refine ⟨u.behind r.closed, done ++ first, second, ?_, ?_, ?_, ?_, ?_, ?_, ?_, h.fits, ?_⟩
  · rw [hbus, transactions_append h.reading]
    exact hread
  · rw [hpadding, hsecond, ← hclosedAfter]
    exact hv
  · rw [List.append_assoc]
    exact h.issued
  · change (r.closed ++ u.closed).filter isWrite = _
    rw [List.filter_append, h.writes, ← hfirst, filter_writes, List.map_append]
  · change (r.closed ++ u.closed).filter (fun t => !isWrite t) = _
    rw [List.filter_append, h.reads, ← hfirst, filter_reads, List.append_nil]
  · rw [henabled]
    exact quiet_after hread h.quiet hmasked.1
  · rw [henabled]
    exact hmasked.2
  · have hone := h.atMostOne
    rw [List.length_append] at hone
    change second.length ≤ 1
    omega

/-- A reception adds its transaction and nothing else, wherever none is open. -/
theorem Shows.reception (h : Shows c r done pending) (hcurrent : r.current = none)
    {reply : ℕ → Byte} {s : State} (hreceives : Receives reply c.st s)
    (hmasked : Masked s.interruptsEnabled c.rest) :
    Orderly { c with st := s, replies := c.replies ++ [reply] } := by
  obtain ⟨⟨events, hbus, hwhole⟩, hpadding, -⟩ := hreceives
  have hread := transactions_append_whole h.reading hcurrent hwhole
  have hone : [readTransaction reply].filter isWrite = [] ∧
      [readTransaction reply].filter (fun t => !isWrite t) = [readTransaction reply] := by
    simp [isWrite_readTransaction]
  refine ⟨{ closed := r.closed ++ [readTransaction reply], current := none }, done, pending,
    ?_, ?_, h.issued, ?_, ?_, fun _ => rfl, hmasked, h.fits, h.atMostOne⟩
  · rw [hbus]
    exact hread
  · have hcompletes := h.completes
    rw [hcurrent] at hcompletes
    rw [hpadding]
    exact hcompletes
  · rw [List.filter_append, h.writes, hone.1, List.append_nil]
  · rw [List.filter_append, h.reads, hone.2, List.map_append]
    rfl

end Steps

/-- The main loop disables the interrupt for the reception, and the handler leaves the bus
alone. -/
theorem receives_service (s : State) (reply : ℕ → Byte) :
    Receives reply s (service (arrives reply s)).val.2 := by
  have hreply : ∀ i, (Action.interruptDisable.exec (arrives reply s)).miso
      ((Action.interruptDisable.exec (arrives reply s)).misoPos + i) = reply i := fun i => by
    simp [Action.exec, State.onBus, arrives]
  obtain ⟨⟨⟨events, hbus, hwhole⟩, hpadding, hdesired⟩, -⟩ :=
    receives_cc3000SpiReceive (Action.interruptDisable.exec (arrives reply s)) hreply
  rw [val_service]
  -- what the reception did is in the equations, and its code need not be looked at again
  generalize (cc3000SpiReceive (Action.interruptDisable.exec (arrives reply s))).val.2 = t
    at hbus hpadding hdesired ⊢
  refine ⟨⟨[.interruptDisable] ++ events ++ [.interruptEnable], ?_, ?_⟩, ?_, ?_⟩
  · rw [handle_eq]
    change (_ : List BusEvent) ++ [BusEvent.interruptEnable] = _
    rw [hbus]
    simp [Action.exec, State.onBus, arrives]
  · have hfirst : transactions [.interruptDisable] = some { closed := [], current := none } := rfl
    have hlast : transactions [.interruptEnable] = some { closed := [], current := none } := rfl
    exact transactions_append_whole (transactions_append_whole hfirst rfl hwhole) rfl hlast
  · rw [handle_eq]
    exact hpadding
  · rw [handle_eq]
    exact hdesired

theorem orderly_step {c t : Config} {l : Label} (h : Orderly c) (hstep : Takes step c l t)
    (hadmissible : Admissible c l t) : Orderly t := by
  obtain ⟨r, done, pending, h⟩ := h
  unfold Takes step at hstep
  cases l with
  | call k =>
    cases hrest : c.rest with
    | cons a rest => simp [hrest] at hstep
    | nil =>
      simp only [hrest, Option.map_eq_some_iff] at hstep
      obtain ⟨⟨s, p⟩, hbegin, rfl⟩ := hstep
      exact ⟨r, done, _, h.call hrest (begins_of_proper (hadmissible k rfl) hbegin)⟩
  | act =>
    cases hrest : c.rest with
    | nil => simp [hrest] at hstep
    | cons a rest =>
      simp only [hrest, Option.some.injEq] at hstep
      rw [← hstep]
      exact h.act hrest
  | interrupt reply =>
    simp only [Option.ite_none_right_eq_some, Option.some.injEq] at hstep
    obtain ⟨henabled, rfl⟩ := hstep
    have hreply : ∀ i, (arrives reply c.st).miso ((arrives reply c.st).misoPos + i) = reply i :=
      fun i => by simp [arrives]
    obtain ⟨hreceives, hsame⟩ := receives_cc3000SpiReceive (arrives reply c.st) hreply
    refine h.reception (h.quiet henabled) ⟨hreceives.bus, hreceives.paddingByteRequired,
      hreceives.desiredState⟩ ?_
    rw [hsame]
    exact h.masked
  | service reply =>
    cases hrest : c.rest with
    | cons a rest => simp [hrest] at hstep
    | nil =>
      simp only [hrest, Option.some.injEq] at hstep
      have hmasked : Masked (service (arrives reply c.st)).val.2.interruptsEnabled c.rest := by
        rw [hrest]
        trivial
      have hafter := h.reception (h.at_rest hrest).2 (receives_service c.st reply) hmasked
      rw [hrest] at hafter
      rw [← hstep]
      exact hafter

theorem orderly_idle {s : State} (hbus : s.bus = []) : Orderly (idle s) := by
  refine ⟨opened none, [], [], ?_, rfl, rfl, rfl, rfl, fun _ => rfl, trivial, ?_, Nat.zero_le 1⟩
  · change transactions s.bus = _
    rw [hbus]
    rfl
  · exact fun m hm => absurd hm List.not_mem_nil

/-- The device has taken the messages of the calls off the bus, complete and in order except
for the one that may still be under way. -/
theorem Orderly.taken {c : Config} (h : Orderly c) :
    ∃ done, deviceLog c.st.bus = some done ∧ done <+: c.issued ∧
      c.issued.length ≤ done.length + 1 ∧ (c.rest = [] → done = c.issued) := by
  obtain ⟨r, done, pending, h⟩ := h
  have hissued := h.issued
  have hfits : ∀ m ∈ done, m.Fits := by
    intro m hm
    apply h.fits
    rw [hissued]
    exact List.mem_append_left pending hm
  refine ⟨done, ?_, ⟨pending, hissued.symm⟩, ?_, ?_⟩
  · rw [deviceLog, h.reading, Option.bind_some, h.writes, mapM_messageOf done hfits]
  · have hone := h.atMostOne
    rw [hissued, List.length_append]
    omega
  · intro hrest
    rw [hissued, (h.at_rest hrest).1, List.append_nil]

/-- Its own transmissions stand on the bus as whole transactions, each once. -/
theorem Orderly.replied {c : Config} (h : Orderly c) :
    deviceReplies c.st.bus = some (c.replies.map readTransaction) := by
  obtain ⟨r, done, pending, h⟩ := h
  rw [deviceReplies, h.reading, Option.map_some, h.reads]

theorem orderly_of_run {s : State} (hbus : s.bus = []) {ls : List Label}
    (hadmissible : Along (Takes step) Admissible (idle s) ls) {c : Config}
    (hrun : Run (Takes step) (idle s) ls c) : Orderly c :=
  hrun.invariant_along (fun _ _ _ horderly hstep hcond => orderly_step horderly hstep hcond)
    hadmissible (orderly_idle hbus)

/-- For every run of calls and receptions from a state with nothing on the bus, whatever
comes between two actions and whatever the device shifts out: every byte stands inside a
transaction; the device reads the messages of the calls off the bus, complete and in order
except for the one that may still be under way; and its own transmissions are on the bus
as whole transactions, each once. -/
theorem messages_arrive (s : State) (hbus : s.bus = []) (ls : List Label)
    (hadmissible : Along (Takes step) Admissible (idle s) ls) (c : Config)
    (hrun : Run (Takes step) (idle s) ls c) :
    ∃ done, deviceLog c.st.bus = some done ∧ done <+: c.issued ∧
      c.issued.length ≤ done.length + 1 ∧ (c.rest = [] → done = c.issued) ∧
      deviceReplies c.st.bus = some (c.replies.map readTransaction) := by
  have horderly := orderly_of_run hbus hadmissible hrun
  obtain ⟨done, hlog, hprefix, hlength, hall⟩ := horderly.taken
  exact ⟨done, hlog, hprefix, hlength, hall, horderly.replied⟩

/-- Action steps alone carry a call out. -/
theorem run_acts (p rest : Prog) (s : State) (issued : List Message)
    (replies : List (ℕ → Byte)) :
    Run (Takes step) ⟨p ++ rest, s, issued, replies⟩ (List.replicate p.length .act)
      ⟨rest, p.exec s, issued, replies⟩ := by
  induction p generalizing s with
  | nil => exact Run.nil _
  | cons a p ih =>
    have hstep : Takes step ⟨a :: (p ++ rest), s, issued, replies⟩ .act
        ⟨p ++ rest, a.exec s, issued, replies⟩ := rfl
    exact Run.cons hstep (ih (a.exec s))

def startReply : ℕ → Byte := fun i => [0, 6, 0x04, 0x00, 0x40, 0x01, 0x00, 0x00].getD i 0

/-- The device is started and answers. -/
theorem messages_arrive_start :
    ∃ ls c, Run (Takes step) (idle (initial fun _ => 0)) ls c ∧ c.rest = [] ∧
      deviceLog c.st.bus = some [.command hciCmndSimpleLinkStart [0]] ∧
      deviceReplies c.st.bus = some [readTransaction startReply] := by
  let s := initial fun _ => 0
  have hbegin : Takes step (idle s) (.call (.request (.start 0)))
      ⟨cc3000Start 0 ++ [], s, [.command hciCmndSimpleLinkStart [0]], []⟩ := rfl
  have hacts := run_acts (cc3000Start 0) [] s [.command hciCmndSimpleLinkStart [0]] []
  have hreply : Takes step ⟨[], (cc3000Start 0).exec s, [.command hciCmndSimpleLinkStart [0]], []⟩
      (.interrupt startReply) _ := rfl
  have hrun := Run.cons hbegin (hacts.append (Run.cons hreply (Run.nil _)))
  have hadmissible : Along (Takes step) Admissible (idle s)
      (.call (.request (.start 0)) ::
        (List.replicate (cc3000Start 0).length .act ++ [.interrupt startReply])) := by
    rw [along_cons_takes hbegin]
    refine ⟨fun k hk => ?_, along_of_labels (P := fun l => ∀ k, l ≠ .call k) ?_ ?_ _⟩
    · cases hk
      rfl
    · exact fun _ _ _ hl k hk => absurd hk (hl k)
    · intro l hl k hk
      rw [hk] at hl
      simp at hl
  obtain ⟨done, hlog, -, -, hall, hreplies⟩ := messages_arrive s rfl _ hadmissible _ hrun
  rw [hall rfl] at hlog
  exact ⟨_, _, hrun, rfl, hlog, hreplies⟩

/-- A device that is started again with the interrupt on may be asked to transmit in the
middle of the command. -/
example :
    ∃ ls c, Run (Takes step) (idle { initial (fun _ => 0) with interruptsEnabled := true }) ls c ∧
      transactions c.st.bus = none := by
  let s := { initial (fun _ => 0) with interruptsEnabled := true }
  let issued : List Message := [.command hciCmndSimpleLinkStart [0]]
  let asserted := Prog.exec ((cc3000Start 0).take 6) s
  have hbegin : Takes step (idle s) (.call (.request (.start 0)))
      ⟨(cc3000Start 0).take 6 ++ (cc3000Start 0).drop 6, s, issued, []⟩ := rfl
  have hacts := run_acts ((cc3000Start 0).take 6) ((cc3000Start 0).drop 6) s issued []
  have hreply : Takes step ⟨(cc3000Start 0).drop 6, asserted, issued, []⟩ (.interrupt fun _ => 0)
      ⟨(cc3000Start 0).drop 6, (cc3000SpiReceive (arrives (fun _ => 0) asserted)).val.2, issued,
        [fun _ => 0]⟩ := rfl
  refine ⟨_, _, Run.cons hbegin (hacts.append (Run.cons hreply (Run.nil _))), ?_⟩
  rw [val_cc3000SpiReceive_of_not_accepts _ (by decide)]
  rfl

end Cc3000Async.InterruptInterleaving
