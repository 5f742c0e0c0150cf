import Cc3000Async.LabelledRuns
import Cc3000Async.Requests
import Cc3000Async.SpiReceive

/-!
A request and its response, step by step. The request runs its remaining actions
one at a time; once its frame is closed and the interrupt enabled, the reception
path may run between any two of them. A response that finds the expectation not
yet armed is lost, and the expectation armed after it is never met.
-/
namespace Cc3000Async.RequestInterleaving

open ByteMemory Opcodes TracedAccess LabelledRuns DriverState EventHandler SpiReceive Requests

/-- The bytes the device shifts out to answer a request: the length, then an event
with the expected opcode, whose arguments fit the return buffer. -/
structure Answers (op : BitVec 16) (reply : ℕ → Byte) : Prop where
  lengthMsb : reply 0 = 0
  lengthLsb : 5 ≤ (reply 1).toNat ∧ (reply 1).toNat ≤ cc300SpiRxBufferSize
  type : reply 2 = hciTypeEvent
  opcode : word16 (reply 4) (reply 3) = op
  argsLength : (reply 5).toNat ≤ 245

def deliver (reply : ℕ → Byte) (s : State) : State :=
  (cc3000SpiReceive { s with miso := reply, misoPos := 0 }).val.2

/-- A request under way: its remaining actions, the globals, and whether the response
has been handled. -/
structure Config where
  rest : Prog
  st : State
  answered : Bool

inductive Label
  | request
  | response
  deriving DecidableEq, Repr

/-- The response is ready once the request frame is closed, and is handled when the
interrupt is enabled. -/
def step (reply : ℕ → Byte) (c : Config) : Label → Option Config
  | .request =>
      match c.rest with
      | [] => none
      | a :: rest => some { c with rest := rest, st := a.exec c.st }
  | .response =>
      if c.answered = false ∧ c.st.interruptsEnabled = true ∧ .deassertCs ∉ c.rest then
        some { c with st := deliver reply c.st, answered := true }
      else none

def AfterExpect (op : BitVec 16) (c : Config) (l : Label) (_ : Config) : Prop :=
  l = .response → .hciExpect op ∉ c.rest

theorem deliver_eq {op : BitVec 16} {reply : ℕ → Byte} (h : Answers op reply) (s : State) :
    (deliver reply s).desiredState = s.desiredState ∧
    (deliver reply s).currentState =
      (if op = s.expect then s.currentState + 1 else s.currentState) ∧
    (deliver reply s).expect = (if op = s.expect then 0 else s.expect) := by
  obtain ⟨hlow, hhigh⟩ := h.lengthLsb
  let ready : State := { s with miso := reply, misoPos := 0 }
  have hlsb : lengthLsb ready = reply 1 := rfl
  have haccept : Accepts ready := by
    refine ⟨hhigh, ?_⟩
    intro hzero
    rw [hlsb] at hzero
    rw [hzero] at hlow
    exact absurd hlow (by decide)
  have hbyte : ∀ i, i < 5 → receivedBuffer ready i = reply (i + 2) := by
    intro i hi
    have hat : receivedBuffer ready i = payload ready i := overlay_lt _ _ (by rw [hlsb]; omega)
    rw [hat]
    change reply (0 + 2 + i) = reply (i + 2)
    rw [show 0 + 2 + i = i + 2 by omega]
  have hframe : frameOpcode (receivedBuffer ready) = some op := by
    unfold frameOpcode
    rw [hbyte 0 (by omega), hbyte 1 (by omega), hbyte 2 (by omega), if_pos h.type, h.opcode]
  have hval : deliver reply s =
      Action.deassertCs.exec
        (handle (receivedBuffer ready) (receiving ready (lengthLsb ready).toNat)) := by
    change (cc3000SpiReceive ready).val.2 = _
    rw [val_cc3000SpiReceive_of_accepts ready haccept]
  have hexpect : (receiving ready (lengthLsb ready).toNat).expect = s.expect := rfl
  rw [hval, handle_eq, hframe, hexpect]
  refine ⟨rfl, ?_, ?_⟩
  · simp only [Action.exec, State.onBus, Option.some.injEq]
    rfl
  · simp only [Action.exec, State.onBus, Option.some.injEq]

/-- Before the response: what is still to run accounts for the rest of the raise, and
the opcode is armed or about to be. -/
structure Pending (op : BitVec 16) (s : State) (c : Config) : Prop where
  desired : c.st.desiredState + BitVec.ofNat 32 (c.rest.count .incDesiredState) =
    s.desiredState + 1
  current : c.st.currentState = s.currentState
  armed : .hciExpect op ∈ c.rest ∨ c.st.expect = op
  only : ∀ op', .hciExpect op' ∈ c.rest → op' = op
  unanswered : c.answered = false

/-- After a response that met the armed expectation. -/
structure Matched (s : State) (c : Config) : Prop where
  desired : c.st.desiredState + BitVec.ofNat 32 (c.rest.count .incDesiredState) =
    s.desiredState + 1
  current : c.st.currentState = s.currentState + 1
  expect : c.st.expect = 0
  unarmed : ∀ op', .hciExpect op' ∉ c.rest
  answered : c.answered = true

/-- After a response that came too early: the opcode will be armed for nothing. -/
structure Missed (op : BitVec 16) (c : Config) : Prop where
  armed : .hciExpect op ∈ c.rest ∨ c.st.expect = op
  only : ∀ op', .hciExpect op' ∈ c.rest → op' = op
  answered : c.answered = true

def Settled (s : State) : Prop := s.cc3000IsReady = 1 ∧ s.expect = 0

section Steps

variable {op : BitVec 16} {reply : ℕ → Byte} {s : State} {c t : Config}

theorem step_request (h : Takes (step reply) c .request t) :
    ∃ a rest, c.rest = a :: rest ∧ t = { c with rest := rest, st := a.exec c.st } := by
  unfold Takes step at h
  cases hrest : c.rest with
  | nil => simp [hrest] at h
  | cons a rest =>
    simp only [hrest, Option.some.injEq] at h
    exact ⟨a, rest, rfl, h.symm⟩

theorem step_response (h : Takes (step reply) c .response t) :
    c.answered = false ∧ t = { c with st := deliver reply c.st, answered := true } := by
  unfold Takes step at h
  simp only [Option.ite_none_right_eq_some, Option.some.injEq] at h
  exact ⟨h.1.1, h.2.symm⟩

theorem not_takes_response (hanswered : c.answered = true) :
    ¬ Takes (step reply) c .response t := by
  intro hstep
  have hfalse := (step_response hstep).1
  rw [hanswered] at hfalse
  exact absurd hfalse (by simp)

/-- The raise of the desired state moves from the remaining actions to the state. -/
theorem desired_request {a : Action} {rest : Prog} {d : BitVec 32}
    (h : c.st.desiredState + BitVec.ofNat 32 ((a :: rest).count .incDesiredState) = d) :
    (a.exec c.st).desiredState + BitVec.ofNat 32 (rest.count .incDesiredState) = d := by
  rw [a.exec_desiredState, BitVec.add_assoc, ← BitVec.ofNat_add, ← Prog.count_raise a rest]
  exact h

theorem Pending.request (h : Pending op s c) (hstep : Takes (step reply) c .request t) :
    Pending op s t := by
  obtain ⟨a, rest, hrest, rfl⟩ := step_request hstep
  obtain ⟨hdesired, hcurrent, harmed, honly, hunanswered⟩ := h
  rw [hrest] at hdesired harmed honly
  refine ⟨desired_request hdesired, ?_, armed_exec honly harmed, ?_, hunanswered⟩
  · exact (a.exec_received c.st).1.trans hcurrent
  · intro op' hmem
    exact honly op' (List.mem_cons_of_mem a hmem)

theorem Pending.response_late (h : Pending op s c) (hreply : Answers op reply)
    (hstep : Takes (step reply) c .response t) (hlate : .hciExpect op ∉ c.rest) :
    Matched s t := by
  obtain ⟨-, rfl⟩ := step_response hstep
  obtain ⟨hdesired, hcurrent, hexpect⟩ := deliver_eq hreply c.st
  have harmed : op = c.st.expect := (h.armed.resolve_left hlate).symm
  refine ⟨?_, ?_, ?_, ?_, rfl⟩
  · rw [hdesired]
    exact h.desired
  · rw [hcurrent, if_pos harmed, h.current]
  · rw [hexpect, if_pos harmed]
  · intro op' hmem
    have heq := h.only op' hmem
    rw [heq] at hmem
    exact hlate hmem

theorem Pending.response_early (h : Pending op s c)
    (hstep : Takes (step reply) c .response t) (hearly : .hciExpect op ∈ c.rest) :
    Missed op t := by
  obtain ⟨-, rfl⟩ := step_response hstep
  exact ⟨Or.inl hearly, h.only, rfl⟩

theorem Matched.step {l : Label} (h : Matched s c) (hstep : Takes (step reply) c l t) :
    Matched s t := by
  cases l with
  | request =>
    obtain ⟨a, rest, hrest, rfl⟩ := step_request hstep
    obtain ⟨hdesired, hcurrent, hexpect, hunarmed, hanswered⟩ := h
    rw [hrest] at hdesired hunarmed
    have hnot : ∀ op', .hciExpect op' ∉ rest := fun op' hmem =>
      hunarmed op' (List.mem_cons_of_mem a hmem)
    refine ⟨desired_request hdesired, (a.exec_received c.st).1.trans hcurrent, ?_, hnot,
      hanswered⟩
    have hone : ∀ op', .hciExpect op' ∉ [a] := fun op' hmem =>
      hunarmed op' (List.mem_cons.mpr (Or.inl (List.mem_singleton.mp hmem)))
    exact (exec_expect_of_not_mem [a] hone c.st).trans hexpect
  | response => exact absurd hstep (not_takes_response h.answered)

theorem Missed.step {l : Label} (h : Missed op c) (hstep : Takes (step reply) c l t) :
    Missed op t := by
  cases l with
  | request =>
    obtain ⟨a, rest, hrest, rfl⟩ := step_request hstep
    obtain ⟨harmed, honly, hanswered⟩ := h
    rw [hrest] at harmed honly
    refine ⟨armed_exec honly harmed, ?_, hanswered⟩
    intro op' hmem
    exact honly op' (List.mem_cons_of_mem a hmem)
  | response => exact absurd hstep (not_takes_response h.answered)

theorem Matched.settled (h : Matched s c) (hready : s.cc3000IsReady = 1)
    (hreturned : c.rest = []) : Settled c.st := by
  rw [State.cc3000IsReady_eq_one] at hready
  have hdesired := h.desired
  rw [hreturned] at hdesired
  simp only [List.count_nil, BitVec.ofNat_eq_ofNat, BitVec.add_zero] at hdesired
  constructor
  · rw [State.cc3000IsReady_eq_one, hdesired, h.current, hready]
    rfl
  · exact h.expect

theorem Missed.not_settled (h : Missed op c) (hop : op ≠ 0#16) (hreturned : c.rest = []) :
    ¬ Settled c.st := by
  intro hsettled
  have harmed := h.armed
  rw [hreturned] at harmed
  have hexpect := harmed.resolve_left List.not_mem_nil
  exact hop (hexpect.symm.trans hsettled.2)

end Steps

theorem along_answered {op : BitVec 16} {reply : ℕ → Byte} {c : Config}
    (h : c.answered = true) (ls : List Label) :
    Along (Takes (step reply)) (AfterExpect op) c ls := by
  apply along_of_invariant (I := fun c => c.answered = true) _ h
  intro c l t hanswered hstep
  cases l with
  | request =>
    obtain ⟨a, rest, -, rfl⟩ := step_request hstep
    exact ⟨fun hl => absurd hl (by simp), hanswered⟩
  | response => exact absurd hstep (not_takes_response hanswered)

theorem settled_iff_of_pending {op : BitVec 16} {reply : ℕ → Byte} {s : State}
    (hop : op ≠ 0#16) (hready : s.cc3000IsReady = 1) (hreply : Answers op reply)
    {c t : Config} {ls : List Label} (hrun : Run (Takes (step reply)) c ls t)
    (hpending : Pending op s c) (hreturned : t.rest = []) (hanswered : t.answered = true) :
    Settled t.st ↔ Along (Takes (step reply)) (AfterExpect op) c ls := by
  induction hrun with
  | nil c =>
    have hfalse := hpending.unanswered
    rw [hanswered] at hfalse
    exact absurd hfalse (by simp)
  | @cons c u t l ls hstep hrest ih =>
    rw [along_cons_takes hstep]
    cases l with
    | request =>
      rw [ih (hpending.request hstep) hreturned hanswered]
      simp [AfterExpect]
    | response =>
      have hafter : Along (Takes (step reply)) (AfterExpect op) u ls := by
        obtain ⟨-, rfl⟩ := step_response hstep
        exact along_answered rfl ls
      by_cases hearly : .hciExpect op ∈ c.rest
      · have hmissed := hrest.invariant (fun _ _ _ h hstep => h.step hstep)
          (hpending.response_early hstep hearly)
        have hnot := hmissed.not_settled hop hreturned
        simp [AfterExpect, hearly, hnot]
      · have hmatched := hrest.invariant (fun _ _ _ h hstep => h.step hstep)
          (hpending.response_late hreply hstep hearly)
        have hsettled := hmatched.settled hready hreturned
        simp [AfterExpect, hearly, hsettled, hafter]

theorem takes_request (reply : ℕ → Byte) (a : Action) (rest : Prog) (s : State) (b : Bool) :
    Takes (step reply) ⟨a :: rest, s, b⟩ .request ⟨rest, a.exec s, b⟩ := rfl

theorem takes_response (reply : ℕ → Byte) (rest : Prog) (s : State)
    (henabled : s.interruptsEnabled = true) (hclosed : .deassertCs ∉ rest) :
    Takes (step reply) ⟨rest, s, false⟩ .response ⟨rest, deliver reply s, true⟩ := by
  unfold Takes step
  exact if_pos ⟨rfl, henabled, hclosed⟩

theorem run_requests (reply : ℕ → Byte) (p rest : Prog) (s : State) (b : Bool) :
    Run (Takes (step reply)) ⟨p ++ rest, s, b⟩ (List.replicate p.length .request)
      ⟨rest, p.exec s, b⟩ := by
  induction p generalizing s with
  | nil => exact Run.nil _
  | cons a p ih => exact Run.cons (takes_request reply a _ s b) (ih (a.exec s))

/-- For every request issued from a ready state and every interleaving with the
delivery of its response: when the request has returned and the response is handled,
the driver is settled exactly when the response came after the expectation was armed. -/
theorem settled_iff (r : Request) (p : Prog) (op : BitVec 16) (hp : r.prog = some p)
    (harms : .hciExpect op ∈ p) (s : State) (hready : s.cc3000IsReady = 1)
    (reply : ℕ → Byte) (hreply : Answers op reply) (ls : List Label) (t : Config)
    (hrun : Run (Takes (step reply)) ⟨p, s, false⟩ ls t) (hreturned : t.rest = [])
    (hanswered : t.answered = true) :
    t.st.cc3000IsReady = 1 ∧ t.st.expect = 0 ↔
      Along (Takes (step reply)) (AfterExpect op) ⟨p, s, false⟩ ls := by
  rcases prog_raises r p hp with rfl | ⟨op', hop', hraises⟩
  · exact absurd harms List.not_mem_nil
  · have heq := hraises.only op harms
    subst heq
    have hpending : Pending op s ⟨p, s, false⟩ := by
      refine ⟨?_, rfl, Or.inl harms, hraises.only, rfl⟩
      rw [hraises.count]
      rfl
    exact settled_iff_of_pending (armedOpcodes_spec op hop').1 hready hreply hrun hpending
      hreturned hanswered

/-- The device answers a socket request with socket 0. -/
def socketReply : ℕ → Byte := fun i => [0, 9, 0x04, 0x01, 0x10, 0x04, 0x00].getD i 0

def socketCommand : HciFrames.Command := SocketOperations.cc3000ReqSocket 2 1 6

def beforeExpect : Prog := socketCommand.prog.dropLast

theorem socketCommand_prog : socketCommand.prog = beforeExpect ++ [.hciExpect hciEvntSocket] := by
  decide

theorem answers_socketReply : Answers hciEvntSocket socketReply := by
  constructor <;> decide

theorem settled_iff_socket :
    ∃ ls t, Run (Takes (step socketReply)) ⟨socketCommand.prog, initial fun _ => 0, false⟩ ls t ∧
      (t.st.cc3000IsReady = 1 ∧ t.st.expect = 0 ↔
        Along (Takes (step socketReply)) (AfterExpect hciEvntSocket)
          ⟨socketCommand.prog, initial fun _ => 0, false⟩ ls) := by
  have hrun := run_requests socketReply socketCommand.prog [] (initial fun _ => 0) false
  rw [List.append_nil] at hrun
  have hlast := takes_response socketReply [] (socketCommand.prog.exec (initial fun _ => 0)) rfl
    List.not_mem_nil
  have hall := hrun.append (Run.cons hlast (Run.nil _))
  exact ⟨_, _, hall, settled_iff (.reqSocket 2 1 6) _ hciEvntSocket rfl (by decide) _
    (by decide) _ answers_socketReply _ _ hall rfl rfl⟩

/-- The response of a socket request handled between the end of the frame and the
arming of the expectation: the driver waits for it forever. -/
theorem response_lost :
    Request.prog (.reqSocket 2 1 6) = some socketCommand.prog ∧
    (initial fun _ => 0).cc3000IsReady = 1 ∧ Answers hciEvntSocket socketReply ∧
    ∃ ls t, Run (Takes (step socketReply)) ⟨socketCommand.prog, initial fun _ => 0, false⟩ ls t ∧
      t.rest = [] ∧ t.answered = true ∧ ¬ (t.st.cc3000IsReady = 1 ∧ t.st.expect = 0) := by
  refine ⟨rfl, by decide, answers_socketReply, ?_⟩
  have hrun := run_requests socketReply beforeExpect [.hciExpect hciEvntSocket]
    (initial fun _ => 0) false
  rw [← socketCommand_prog] at hrun
  have hearly := takes_response socketReply [.hciExpect hciEvntSocket]
    (beforeExpect.exec (initial fun _ => 0)) rfl (by simp)
  have hlast := takes_request socketReply (.hciExpect hciEvntSocket) []
    (deliver socketReply (beforeExpect.exec (initial fun _ => 0))) true
  have hall := hrun.append (Run.cons hearly (Run.cons hlast (Run.nil _)))
  refine ⟨_, _, hall, rfl, rfl, ?_⟩
  intro hsettled
  exact absurd hsettled.2 (by decide)

end Cc3000Async.RequestInterleaving
