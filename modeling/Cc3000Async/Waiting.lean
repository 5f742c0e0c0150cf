import Cc3000Async.OverlappedRequests
import Cc3000Async.DeviceFrames
import Cc3000Async.Polling
import Cc3000Async.UnsolicitedEvents

/-!
`cc3000_wait`, which does nothing until the reception path has counted the answer. What
arrives between two polls is arbitrary; the wait is over exactly when no answer was lost
before and the expected opcode arrives.
-/
namespace Cc3000Async.Waiting

open ByteMemory LabelledRuns IndependentUpdates Polling Opcodes DriverState EventHandler
open ReceiveBounds DeviceFrames SocketOperations Requests UnsolicitedEvents OverlappedRequests

/-- The frames that arrive between two polls are handled before the second. -/
def cc3000Wait (arrivals : ℕ → List Mem) (fuel : ℕ) (s : State) : Option State :=
  poll (fun s => s.cc3000IsReady ≠ 0) (fun k => applyAll handle (arrivals k)) fuel 0 s

def heard (arrivals : ℕ → List Mem) : ℕ → ℕ → List Mem
  | 0, _ => []
  | n + 1, k => arrivals k ++ heard arrivals n (k + 1)

theorem changed_eq (arrivals : ℕ → List Mem) (n k : ℕ) (s : State) :
    changed (fun k => applyAll handle (arrivals k)) n k s =
      applyAll handle (heard arrivals n k) s := by
  induction n generalizing k s with
  | zero => rfl
  | succ n ih => rw [changed, heard, applyAll_append, ih]

theorem mem_heard {arrivals : ℕ → List Mem} {n k : ℕ} {data : Mem} :
    data ∈ heard arrivals n k ↔ ∃ m, m < n ∧ data ∈ arrivals (k + m) := by
  induction n generalizing k with
  | zero => simp [heard]
  | succ n ih =>
    rw [heard, List.mem_append, ih]
    constructor
    · rintro (hmem | ⟨m, hm, hmem⟩)
      · exact ⟨0, Nat.succ_pos n, hmem⟩
      · refine ⟨m + 1, Nat.succ_lt_succ hm, ?_⟩
        rwa [Nat.add_assoc, Nat.add_comm 1 m] at hmem
    · rintro ⟨m, hm, hmem⟩
      cases m with
      | zero => exact Or.inl hmem
      | succ m =>
        refine Or.inr ⟨m, Nat.lt_of_succ_lt_succ hm, ?_⟩
        rwa [Nat.add_assoc, Nat.add_comm 1 m]

theorem heard_succ (arrivals : ℕ → List Mem) (n k : ℕ) :
    heard arrivals (n + 1) k = heard arrivals n k ++ arrivals (k + n) := by
  induction n generalizing k with
  | zero => simp [heard]
  | succ n ih =>
    have hplace : k + 1 + n = k + (n + 1) := by omega
    rw [heard, ih, heard, List.append_assoc, hplace]

theorem expect_applyAll (fs : List Mem) (s : State) :
    (applyAll handle fs s).expect = 0 ↔
      s.expect = 0 ∨ ∃ data ∈ fs, frameOpcode data = some s.expect := by
  induction fs generalizing s with
  | nil => simp
  | cons data fs ih =>
    rw [applyAll_cons, ih, handle_expect]
    by_cases hmet : frameOpcode data = some s.expect
    · simp [hmet]
    · simp [hmet]

/-- Frames alone never make up for an answer that was lost. -/
theorem behind_applyAll {n : ℕ} {fs : List Mem} (hfit : ∀ data ∈ fs, AccessesFit data)
    (hnonzero : ∀ data ∈ fs, frameOpcode data ≠ some 0) {s : State} (h : Behind n s) :
    Behind n (applyAll handle fs s) := by
  apply applyAll_invariant (I := Behind n) _ h
  intro data hmem s hs
  have hstep : Takes step s (.frame data) (handle data s) := by
    simp only [Takes, step, if_pos (hfit data hmem)]
  have hnone : overlap s (.frame data) = 0 := by simp [overlap, raises]
  have hlater := behind_step hs hstep fun data' hl _ => by
    cases hl
    exact hnonzero data hmem
  rwa [hnone, Nat.add_zero] at hlater

theorem isReady_ne_zero (s : State) : s.cc3000IsReady ≠ 0 ↔ s.cc3000IsReady = 1 := by
  unfold State.cc3000IsReady
  split <;> simp

/-- For every run of requests and frames in any order from an idle driver, and whatever
arrives afterwards inside the buffers and with a nonzero opcode: the wait returns exactly
when no call was made while another was outstanding, and the expected opcode, if any,
arrives. -/
theorem wait_returns_iff (s : State) (hcounters : s.desiredState = s.currentState)
    (hidle : s.expect = 0) (ls : List RequestCounters.Label) (hlength : ls.length < 2 ^ 32 - 1)
    (t : State) (hrun : Run (Takes step) s ls t)
    (hnonzero : Along (Takes step) StepNonzero s ls) (arrivals : ℕ → List Mem)
    (harrivals : ∀ k, ∀ data ∈ arrivals k, AccessesFit data ∧ frameOpcode data ≠ some 0) :
    (∃ fuel u, cc3000Wait arrivals fuel t = some u) ↔
      overlaps s ls = 0 ∧
        (t.expect = 0 ∨ ∃ k, ∃ data ∈ arrivals k, frameOpcode data = some t.expect) := by
  have hle := overlaps_le s ls
  have hbehind : Behind (overlaps s ls) t := by
    have hrest := behind_run hrun (behind_idle hcounters hidle) hnonzero
    rwa [Nat.zero_add] at hrest
  have hready : ∀ n, (applyAll handle (heard arrivals n 0) t).cc3000IsReady ≠ 0 ↔
      overlaps s ls = 0 ∧
        (t.expect = 0 ∨ ∃ data ∈ heard arrivals n 0, frameOpcode data = some t.expect) := by
    intro n
    have hall : ∀ data ∈ heard arrivals n 0, AccessesFit data ∧ frameOpcode data ≠ some 0 := by
      intro data hmem
      obtain ⟨m, -, hmem⟩ := mem_heard.mp hmem
      exact harrivals _ data hmem
    have hlater := behind_applyAll (fun data hmem => (hall data hmem).1)
      (fun data hmem => (hall data hmem).2) hbehind
    rw [isReady_ne_zero, hlater.isReady_iff (by omega), expect_applyAll]
  unfold cc3000Wait
  rw [poll_returns_iff]
  simp only [changed_eq, decide_eq_true_eq, hready]
  constructor
  · rintro ⟨n, hnone, hexpect | ⟨data, hmem, hframe⟩⟩
    · exact ⟨hnone, Or.inl hexpect⟩
    · obtain ⟨m, -, hmem⟩ := mem_heard.mp hmem
      exact ⟨hnone, Or.inr ⟨_, data, hmem, hframe⟩⟩
  · rintro ⟨hnone, hexpect | ⟨k, data, hmem, hframe⟩⟩
    · exact ⟨0, hnone, Or.inl hexpect⟩
    · refine ⟨k + 1, hnone, Or.inr ⟨data, mem_heard.mpr ⟨k, Nat.lt_succ_self k, ?_⟩, hframe⟩⟩
      rwa [Nat.zero_add]

/-- A socket is requested, and the answer arrives again and again. -/
theorem wait_returns_iff_socket :
    ∃ t, Run (Takes step) (initial fun _ => 0) [.request (.reqSocket 2 1 6)] t ∧
      ∃ fuel u, cc3000Wait (fun _ => [socketEvent]) fuel t = some u := by
  have hrun : Run (Takes step) (initial fun _ => 0) [.request (.reqSocket 2 1 6)] _ :=
    Run.cons rfl (Run.nil _)
  have hnonzero : Along (Takes step) StepNonzero (initial fun _ => 0)
      [.request (.reqSocket 2 1 6)] := by
    apply along_of_labels (P := fun l => ∀ data, l ≠ .frame data)
    · exact fun _ _ _ hl data hdata _ => absurd hdata (hl data)
    · intro l hl data hdata
      rw [List.mem_singleton.mp hl] at hdata
      exact RequestCounters.Label.noConfusion hdata
  have hanswer : AccessesFit socketEvent ∧ frameOpcode socketEvent ≠ some 0 := by decide
  have harrivals : ∀ k : ℕ, ∀ data ∈ (fun _ => [socketEvent] : ℕ → List Mem) k,
      AccessesFit data ∧ frameOpcode data ≠ some 0 := by
    intro k data hmem
    rw [List.mem_singleton.mp hmem]
    exact hanswer
  refine ⟨_, hrun, (wait_returns_iff _ rfl rfl _ (by decide) _ hrun hnonzero _ harrivals).mpr ?_⟩
  exact ⟨by decide, Or.inr ⟨0, socketEvent, List.mem_singleton.mpr rfl, by decide⟩⟩

section Call

variable {op : BitVec 16} {s : State}

/-- What the driver waits for after a request from an idle state. -/
structure Waits (op : BitVec 16) (s : State) : Prop where
  armed : Armed op
  expect : s.expect = op
  desiredState : s.desiredState = s.currentState + 1

theorem waits_exec {r : Request} {p : Prog} (hp : r.prog = some p) (harms : .hciExpect op ∈ p)
    (hcounters : s.desiredState = s.currentState) : Waits op (p.exec s) := by
  have hdone : Requested op s (p.exec s) := by
    rcases prog_raises r p hp with rfl | ⟨op', -, hraises⟩
    · exact absurd harms List.not_mem_nil
    · rw [hraises.only op harms]
      exact requested_of_raises hraises s
  refine ⟨Or.inl ⟨r, p, hp, harms⟩, hdone.expect, ?_⟩
  rw [hdone.desiredState, hdone.currentState, hcounters]

theorem desiredState_applyAll (fs : List Mem) (s : State) :
    (applyAll handle fs s).desiredState = s.desiredState :=
  applyAll_invariant (I := fun t => t.desiredState = s.desiredState)
    (fun data _ t ht => (handle_desiredState data t).trans ht) rfl

theorem not_ready_of_unsolicited (h : Waits op s) {us : List Mem}
    (hu : ∀ u ∈ us, Unsolicited u) : (applyAll handle us s).cc3000IsReady ≠ 1 := by
  have hview : requestView (applyAll handle us s) = requestView s :=
    view_applyAll_of_fixes (I := Expecting op) (fun data _ s hs => expecting_handle data s hs)
      (fun u hmem => request_fixes h.armed (hu u hmem)) (Or.inl h.expect)
  have hcurrent : (applyAll handle us s).currentState = s.currentState := congrArg Prod.fst hview
  rw [ne_eq, State.cc3000IsReady_eq_one, hcurrent, desiredState_applyAll, h.desiredState]
  exact fun heq => absurd (BitVec.add_right_eq_self.mp heq) (by decide)

theorem unsolicited_heard {arrivals : ℕ → List Mem} {k : ℕ}
    (hearlier : ∀ j, j < k → ∀ u ∈ arrivals j, Unsolicited u) {m : ℕ} (hm : m ≤ k) :
    ∀ u ∈ heard arrivals m 0, Unsolicited u := by
  intro u hmem
  obtain ⟨j, hj, hmem⟩ := mem_heard.mp hmem
  rw [Nat.zero_add] at hmem
  exact hearlier j (by omega) u hmem

section Answer

variable {before after : List Mem} {answer : Mem} {args : List Byte}

/-- With the answer among them, they leave of the request what the answer leaves, and of
the connection what the events alone leave. -/
theorem views_answer (h : Waits op s) (hu : ∀ u ∈ before ++ after, Unsolicited u)
    (hframe : frameOpcode answer = some op) :
    requestView (applyAll handle (before ++ answer :: after) s) =
        requestView (handle answer s) ∧
      linkView (applyAll handle (before ++ answer :: after) s) =
        linkView (applyAll handle (before ++ after) s) := by
  constructor
  · apply view_insert_of_respects (I := Expecting op)
    · exact fun data _ s hs => expecting_handle data s hs
    · exact fun u hmem => request_fixes h.armed (hu u hmem)
    · exact request_respects answer
    · exact Or.inl h.expect
  · apply view_insert_of_fixes (I := fun _ => True)
    · exact fun _ _ _ _ => trivial
    · exact link_fixes h.armed hframe
    · exact fun data _ => link_respects data
    · trivial

theorem ready_answer (h : Waits op s) (hu : ∀ u ∈ before ++ after, Unsolicited u)
    (hanswer : Holds answer 0 (eventFrame op args)) (hargs : args.length ≤ 245)
    (hnormal : NormalEvent op) :
    (applyAll handle (before ++ answer :: after) s).cc3000IsReady = 1 ∧
      (applyAll handle (before ++ answer :: after) s).expect = 0 ∧
      Holds (applyAll handle (before ++ answer :: after) s).returnBuffer 0 args := by
  have hframe := frameOpcode_event hanswer
  have hmet : frameOpcode answer = some s.expect := by rw [hframe, h.expect]
  have hview := (views_answer h hu hframe).1
  simp only [requestView, Prod.mk.injEq, handle_currentState, handle_expect, handle_returnBuffer,
    if_pos hmet] at hview
  obtain ⟨hcurrent, hexpect, hbuffer⟩ := hview
  refine ⟨?_, hexpect, ?_⟩
  · rw [State.cc3000IsReady_eq_one, desiredState_applyAll, hcurrent, h.desiredState]
  · rw [hbuffer, copyReturn_event hanswer (by omega), if_pos hnormal]
    exact holds_overlay (event_args hanswer)

end Answer

/-- For every request made of an idle driver, every answer with arguments that are copied
and fit the return buffer, and unsolicited events in any number before and after it: the
wait returns with the batch that brings the answer, the driver is ready for the next
request, the return buffer holds the arguments, and of the connection it knows what the
events alone tell. -/
theorem call_returns (r : Request) (p : Prog) (hp : r.prog = some p)
    (harms : .hciExpect op ∈ p) (hcounters : s.desiredState = s.currentState)
    (args : List Byte) (hargs : args.length ≤ 245) (hnormal : NormalEvent op) (answer : Mem)
    (hanswer : Holds answer 0 (eventFrame op args)) (arrivals : ℕ → List Mem) (k : ℕ)
    (before after : List Mem) (hk : arrivals k = before ++ answer :: after)
    (hearlier : ∀ j, j < k → ∀ u ∈ arrivals j, Unsolicited u)
    (hu : ∀ u ∈ before ++ after, Unsolicited u) :
    ∃ t, (∀ fuel, k + 1 < fuel → cc3000Wait arrivals fuel (p.exec s) = some t) ∧
      t.cc3000IsReady = 1 ∧ t.expect = 0 ∧ Holds t.returnBuffer 0 args ∧
      linkView t =
        linkView (applyAll handle (heard arrivals k 0 ++ before ++ after) (p.exec s)) := by
  have hwaits := waits_exec hp harms hcounters
  have hheard : heard arrivals (k + 1) 0 = (heard arrivals k 0 ++ before) ++ answer :: after := by
    rw [heard_succ, Nat.zero_add, hk, List.append_assoc]
  have hothers : ∀ u ∈ (heard arrivals k 0 ++ before) ++ after, Unsolicited u := by
    intro u hmem
    rw [List.append_assoc] at hmem
    exact (List.mem_append.mp hmem).elim (unsolicited_heard hearlier (Nat.le_refl k) u) (hu u)
  obtain ⟨hready, hexpect, hbuffer⟩ := ready_answer hwaits hothers hanswer hargs hnormal
  have hlink := (views_answer hwaits hothers (frameOpcode_event hanswer)).2
  refine ⟨_, fun fuel hfuel => ?_, hready, hexpect, hbuffer, hlink⟩
  refine poll_eq_some_iff.mpr ⟨k + 1, hfuel, ?_,
    decide_eq_true ((isReady_ne_zero _).mpr hready), fun m hm => ?_⟩
  · rw [changed_eq, hheard]
  · have hquiet := unsolicited_heard hearlier (Nat.le_of_lt_succ hm)
    rw [changed_eq]
    exact decide_eq_false (mt (isReady_ne_zero _).mp (not_ready_of_unsolicited hwaits hquiet))

end Call

def socketAnswer : Mem := withPrefix (eventFrame hciEvntSocket [3, 0, 0, 0]) fun _ => 0

/-- Socket 3 is the answer, between a connection and a buffer given back. -/
def socketArrivals : ℕ → List Mem := fun k =>
  if k = 1 then [connectEvent, socketAnswer, freeBuffEvent] else [connectEvent]

theorem call_returns_socket :
    ∃ t, cc3000Wait socketArrivals 3 ((cc3000ReqSocket 2 1 6).prog.exec (initial fun _ => 0)) =
        some t ∧
      t.cc3000IsReady = 1 ∧ t.expect = 0 ∧ Holds t.returnBuffer 0 [3, 0, 0, 0] := by
  have hevents : Unsolicited connectEvent ∧ Unsolicited freeBuffEvent := by decide
  have hearlier : ∀ j, j < 1 → ∀ u ∈ socketArrivals j, Unsolicited u := by
    intro j hj u hmem
    have hzero : socketArrivals j = [connectEvent] := if_neg (by omega)
    rw [hzero, List.mem_singleton] at hmem
    rw [hmem]
    exact hevents.1
  have hu : ∀ u ∈ [connectEvent] ++ [freeBuffEvent], Unsolicited u := by
    intro u hmem
    simp only [List.cons_append, List.nil_append, List.mem_cons, List.not_mem_nil,
      or_false] at hmem
    rcases hmem with rfl | rfl
    · exact hevents.1
    · exact hevents.2
  have hanswer : Holds socketAnswer 0 (eventFrame hciEvntSocket [3, 0, 0, 0]) :=
    holds_withPrefix _ _
  have harms : Action.hciExpect hciEvntSocket ∈ (cc3000ReqSocket 2 1 6).prog := by decide
  obtain ⟨t, hwait, hready, hexpect, hargs, -⟩ := call_returns (s := initial fun _ => 0)
    (.reqSocket 2 1 6) _ rfl harms rfl [3, 0, 0, 0] (by decide) (by decide) socketAnswer hanswer
    socketArrivals 1 [connectEvent] [freeBuffEvent] rfl hearlier hu
  exact ⟨t, hwait 3 (by decide), hready, hexpect, hargs⟩

end Cc3000Async.Waiting
