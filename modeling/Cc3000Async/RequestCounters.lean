import Cc3000Async.LabelledRuns
import Cc3000Async.ReceiveBounds
import Cc3000Async.Requests

/-!
The two counters and the expectation over arbitrary traffic. An idle driver expects
opcode zero and a data frame shows only one byte of opcode, so some frames nobody
asked for are taken for the answer, and a frame whose copy leaves the return buffer may
overwrite the counters themselves; without these the counters never part by more than
the one request outstanding.
-/
namespace Cc3000Async.RequestCounters

open ByteMemory LabelledRuns TracedAccess Opcodes DriverState EventHandler ReceiveBounds
open SocketOperations Requests

inductive Label
  | request (r : Request)
  | getRecvBytes
  | frame (data : Mem)

/-- Requests are made from a ready driver only; frames come at any time. -/
def step (s : State) : Label → Option State
  | .request r => if s.cc3000IsReady = 1 then r.prog.map fun p => p.exec s else none
  | .getRecvBytes => if s.cc3000IsReady = 1 then some (cc3000GetRecvBytes s).val.2 else none
  | .frame data => some (handle data s)

/-- The counters differ by at most one, and by one exactly when something is expected. -/
structure Coupled (s : State) : Prop where
  diff : s.desiredState - s.currentState = 0 ∨ s.desiredState - s.currentState = 1
  armed : s.desiredState - s.currentState = 1 ↔ s.expect ≠ 0

/-- The frame carries the expected opcode in the frame type that goes with it. -/
def Answering (data : Mem) (expect : BitVec 16) : Prop :=
  if expect = hciDataRecv then data 0 = hciTypeData ∧ (data 1).setWidth 16 = hciDataRecv
  else IsEvent data expect

/-- What a step owes to the counters: to keep them coupled, to count answers only, and not
to leave the buffers, beyond which the counters may stand. -/
structure Keeps (s : State) (l : Label) (t : State) : Prop where
  coupled : Coupled t
  advance : t.currentState ≠ s.currentState →
    ∃ data, l = .frame data ∧ s.expect ≠ 0 ∧ Answering data s.expect
  inBounds : ∀ data, l = .frame data → Traced.All InBounds (cc3000EventHandler data s)

/-- The frame cannot be taken for an answer it is not: while nothing is expected its
opcode is not zero; while a data frame is expected it is no event of that opcode; and
while an event is expected it is no data frame with that opcode byte. -/
structure Unmistakable (data : Mem) (s : State) : Prop where
  whileIdle : s.expect = 0 → frameOpcode data ≠ some 0
  whileData : s.expect = hciDataRecv → ¬ IsEvent data hciDataRecv
  whileEvent : s.expect ≠ 0 → s.expect ≠ hciDataRecv →
    ¬ (data 0 = hciTypeData ∧ (data 1).setWidth 16 = s.expect)

/-- The condition on a step: the lengths and counts of a frame fit the buffers, and it is
unmistakable where it arrives. -/
def StepHarmless (s : State) (l : Label) (_ : State) : Prop :=
  ∀ data, l = .frame data → AccessesFit data ∧ Unmistakable data s

theorem coupled_idle {s : State} (hcounters : s.desiredState = s.currentState)
    (hexpect : s.expect = 0) : Coupled s := by
  constructor
  · left
    rw [hcounters]
    exact BitVec.sub_self _
  · rw [hcounters, BitVec.sub_self, hexpect]
    simp

theorem coupled_outstanding {s : State} (hcounters : s.desiredState = s.currentState + 1)
    (hexpect : s.expect ≠ 0) : Coupled s := by
  have hdiff : s.desiredState - s.currentState = 1 := by
    rw [hcounters, BitVec.add_comm, BitVec.add_sub_cancel]
  exact ⟨Or.inr hdiff, fun _ => hexpect, fun _ => hdiff⟩

/-- A coupled state is idle or has one request outstanding. -/
theorem Coupled.cases {s : State} (h : Coupled s) :
    (s.desiredState = s.currentState ∧ s.expect = 0) ∨
      (s.desiredState = s.currentState + 1 ∧ s.expect ≠ 0) := by
  rcases h.diff with hzero | hone
  · left
    constructor
    · bv_omega
    · by_contra hne
      have hone := h.armed.mpr hne
      rw [hzero] at hone
      exact absurd hone (by decide)
  · right
    constructor
    · bv_omega
    · exact h.armed.mp hone

theorem Coupled.of_ready {s : State} (h : Coupled s) (hready : s.cc3000IsReady = 1) :
    s.desiredState = s.currentState ∧ s.expect = 0 := by
  rw [State.cc3000IsReady_eq_one] at hready
  rcases h.cases with hidle | ⟨hdesired, -⟩
  · exact hidle
  · rw [hready] at hdesired
    bv_omega

theorem keeps_request {s t : State} {r : Request} (hs : Coupled s)
    (hstep : Takes step s (.request r) t) : Keeps s (.request r) t := by
  unfold Takes step at hstep
  simp only [Option.ite_none_right_eq_some, Option.map_eq_some_iff] at hstep
  obtain ⟨hready, p, hp, rfl⟩ := hstep
  obtain ⟨hcounters, hexpect⟩ := hs.of_ready hready
  rcases prog_raises r p hp with rfl | ⟨op, hop, hraises⟩
  · exact ⟨hs, fun hne => absurd rfl hne, fun _ hl => Label.noConfusion hl⟩
  · have hdone := requested_of_raises hraises s
    have hne := (armedOpcodes_spec op hop).1
    refine ⟨coupled_outstanding ?_ ?_, fun hne => absurd hdone.currentState hne,
      fun _ hl => Label.noConfusion hl⟩
    · rw [hdone.desiredState, hdone.currentState, hcounters]
    · rw [hdone.expect]
      exact hne

theorem keeps_getRecvBytes {s t : State} (hs : Coupled s)
    (hstep : Takes step s .getRecvBytes t) : Keeps s .getRecvBytes t := by
  unfold Takes step at hstep
  simp only [Option.ite_none_right_eq_some, Option.some.injEq] at hstep
  obtain ⟨hready, rfl⟩ := hstep
  obtain ⟨hcounters, hexpect⟩ := hs.of_ready hready
  rw [val_cc3000GetRecvBytes]
  by_cases hpos : (s.returnBuffer 4).toNat > 0
  · rw [if_pos hpos]
    have hne : hciDataRecv ≠ 0 := by decide
    refine ⟨coupled_outstanding ?_ hne, fun hne => absurd rfl hne,
      fun _ hl => Label.noConfusion hl⟩
    change s.desiredState + 1 = s.currentState + 1
    rw [hcounters]
  · rw [if_neg hpos]
    exact ⟨hs, fun hne => absurd rfl hne, fun _ hl => Label.noConfusion hl⟩

/-- The handler takes the frame for an answer exactly when its opcode, read by the rule
of its type, is the expected one. -/
theorem frameOpcode_eq_some (data : Mem) (op : BitVec 16) :
    frameOpcode data = some op ↔
      IsEvent data op ∨ (data 0 = hciTypeData ∧ (data 1).setWidth 16 = op) := by
  have hne : hciTypeData ≠ hciTypeEvent := by decide
  unfold frameOpcode IsEvent
  by_cases hevent : data 0 = hciTypeEvent
  · simp [hevent, Ne.symm hne]
  · by_cases hdata : data 0 = hciTypeData
    · simp [hdata, hne]
    · simp [hevent, hdata]

/-- Among the frames that complete an outstanding request, the unmistakable ones are
those that answer it. -/
theorem unmistakable_iff_answering {data : Mem} {s : State} (hne : s.expect ≠ 0)
    (hframe : frameOpcode data = some s.expect) :
    Unmistakable data s ↔ Answering data s.expect := by
  have hread := (frameOpcode_eq_some data s.expect).mp hframe
  unfold Answering
  by_cases hrecv : s.expect = hciDataRecv
  · rw [if_pos hrecv]
    rw [hrecv] at hread
    constructor
    · intro h
      exact hread.resolve_left (h.whileData hrecv)
    · intro h
      refine ⟨fun hzero => absurd hzero hne, fun _ hevent => ?_, fun _ hnot => absurd hrecv hnot⟩
      exact absurd (h.1.symm.trans hevent.1) (by decide)
  · rw [if_neg hrecv]
    constructor
    · intro h
      exact hread.resolve_right (h.whileEvent hne hrecv)
    · intro h
      refine ⟨fun hzero => absurd hzero hne, fun hdata => absurd hdata hrecv, fun _ _ hdata => ?_⟩
      exact absurd (hdata.1.symm.trans h.1) (by decide)

/-- A frame that is handled keeps the counters coupled and counts answers only exactly when
it is unmistakable. -/
theorem counts_iff_unmistakable {s : State} (hs : Coupled s) (data : Mem) :
    (Coupled (handle data s) ∧
        ((handle data s).currentState ≠ s.currentState →
          s.expect ≠ 0 ∧ Answering data s.expect)) ↔ Unmistakable data s := by
  by_cases hframe : frameOpcode data = some s.expect
  · have hcurrent : (handle data s).currentState = s.currentState + 1 := by
      rw [handle_currentState, if_pos hframe]
    have hexpect : (handle data s).expect = 0 := by
      rw [handle_expect, if_pos hframe]
    have hadvanced : (handle data s).currentState ≠ s.currentState := by
      rw [hcurrent]
      bv_omega
    rcases hs.cases with ⟨hcounters, hidle⟩ | ⟨hcounters, hne⟩
    · -- an idle driver takes an opcode of zero for an answer and runs ahead of itself
      constructor
      · intro h
        exact absurd hidle (h.2 hadvanced).1
      · intro h
        rw [hidle] at hframe
        exact absurd hframe (h.whileIdle hidle)
    · rw [unmistakable_iff_answering hne hframe]
      constructor
      · intro h
        exact (h.2 hadvanced).2
      · intro h
        refine ⟨coupled_idle ?_ hexpect, fun _ => ⟨hne, h⟩⟩
        rw [handle_desiredState, hcurrent, hcounters]
  · have hcurrent : (handle data s).currentState = s.currentState := by
      rw [handle_currentState, if_neg hframe]
    have hexpect : (handle data s).expect = s.expect := by
      rw [handle_expect, if_neg hframe]
    have hcoupled : Coupled (handle data s) := by
      constructor
      · rw [handle_desiredState, hcurrent]
        exact hs.diff
      · rw [handle_desiredState, hcurrent, hexpect]
        exact hs.armed
    have hread := mt (frameOpcode_eq_some data s.expect).mpr hframe
    rw [not_or] at hread
    have hunmistakable : Unmistakable data s := by
      refine ⟨fun hidle hzero => ?_, fun hrecv hevent => ?_, fun _ _ => hread.2⟩
      · rw [hidle] at hframe
        exact hframe hzero
      · rw [hrecv] at hread
        exact hread.1 hevent
    exact ⟨fun _ => hunmistakable, fun _ => ⟨hcoupled, fun hne => absurd hcurrent hne⟩⟩

theorem keeps_frame {s t : State} {data : Mem} (hs : Coupled s)
    (hstep : Takes step s (.frame data) t) :
    Keeps s (.frame data) t ↔ AccessesFit data ∧ Unmistakable data s := by
  have heq : handle data s = t := Option.some.inj hstep
  subst heq
  rw [← counts_iff_unmistakable hs data, ← all_cc3000EventHandler data s]
  constructor
  · intro h
    refine ⟨h.inBounds data rfl, h.coupled, fun hadvanced => ?_⟩
    obtain ⟨data', hl, hne, hanswering⟩ := h.advance hadvanced
    cases hl
    exact ⟨hne, hanswering⟩
  · rintro ⟨hfit, hcoupled, hadvance⟩
    refine ⟨hcoupled, fun hadvanced => ⟨data, rfl, hadvance hadvanced⟩, fun data' hl => ?_⟩
    cases hl
    exact hfit

/-- For every run of requests and frames from the initial state: the counters stay coupled
and advance only on answers, and no frame leaves the buffers, in every state of the run,
exactly when every frame of the run fits them and is unmistakable where it arrives. -/
theorem counters_iff (miso : ℕ → Byte) (ls : List Label) :
    Along (Takes step) Keeps (initial miso) ls ↔
      Along (Takes step) StepHarmless (initial miso) ls := by
  apply along_iff (I := Coupled)
  · intro s l t hs hstep
    cases l with
    | request r =>
      have hkeeps := keeps_request hs hstep
      exact ⟨fun _ _ hl => absurd hl (by simp), fun _ => hkeeps⟩
    | getRecvBytes =>
      have hkeeps := keeps_getRecvBytes hs hstep
      exact ⟨fun _ _ hl => absurd hl (by simp), fun _ => hkeeps⟩
    | frame data =>
      rw [keeps_frame hs hstep]
      constructor
      · intro h data' hl
        cases hl
        exact h
      · intro h
        exact h data rfl
  · intro s l t _ _ hkeeps
    exact hkeeps.coupled
  · exact coupled_idle rfl rfl

def zeroEvent : Mem := fun i => if i = 0 then hciTypeEvent else 0

/-- Handled by the idle driver it pushes the current state past the desired one. -/
theorem zeroEvent_runs_ahead :
    ∃ t, Run (Takes step) (initial fun _ => 0) [.frame zeroEvent] t ∧
      ¬ (t.desiredState - t.currentState = 0 ∨ t.desiredState - t.currentState = 1) := by
  refine ⟨_, Run.cons rfl (Run.nil _), ?_⟩
  decide

end Cc3000Async.RequestCounters
