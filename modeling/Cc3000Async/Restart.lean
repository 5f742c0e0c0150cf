import Cc3000Async.RequestCounters

/-!
A restart of the device over whatever the driver was doing. Stopping and starting
replaces the expectation, so the answer of an outstanding request is no longer waited
for; but the counters keep their distance, and with it what was outstanding.
-/
namespace Cc3000Async.Restart

open ByteMemory LabelledRuns Opcodes DriverState EventHandler Requests

/-- The state after a stop, a start, and the event that answers the start. -/
def restarted (s : State) (patchesRequest : Byte) (data : Mem) : State :=
  handle data ((cc3000Start patchesRequest).exec (cc3000Stop.exec s))

/-- A restart raises the desired state, and arms the start opcode over any other. -/
theorem requested_restart (s : State) (patchesRequest : Byte) :
    Requested hciCmndSimpleLinkStart s
      ((cc3000Start patchesRequest).exec (cc3000Stop.exec s)) := by
  have hdesiredStop : (cc3000Stop.exec s).desiredState = s.desiredState := rfl
  obtain ⟨hcurrentStop, hreturnStop, hfreeStop⟩ := Prog.exec_received cc3000Stop s
  obtain ⟨hdesired, hcurrent, hexpect, hreturn, hfree⟩ :=
    requested_of_raises (raises_start patchesRequest) (cc3000Stop.exec s)
  rw [hdesiredStop] at hdesired
  exact ⟨hdesired, hcurrent.trans hcurrentStop, hexpect, hreturn.trans hreturnStop,
    hfree.trans hfreeStop⟩

/-- Both counters advance by one over a restart and nothing is expected after it. -/
theorem counters_restarted (s : State) (patchesRequest : Byte) (data : Mem)
    (hdata : IsEvent data hciCmndSimpleLinkStart) :
    (restarted s patchesRequest data).desiredState = s.desiredState + 1 ∧
      (restarted s patchesRequest data).currentState = s.currentState + 1 ∧
      (restarted s patchesRequest data).expect = 0 := by
  obtain ⟨hdesired, hcurrent, hexpect, -, -⟩ := requested_restart s patchesRequest
  have hframe := frameOpcode_of_isEvent hdata
  rw [← hexpect] at hframe
  unfold restarted
  refine ⟨?_, ?_, ?_⟩
  · rw [handle_desiredState, hdesired]
  · rw [handle_currentState, if_pos hframe, hcurrent]
  · rw [handle_expect, if_pos hframe]

/-- From every state, a restart ends ready and expecting nothing exactly when the driver
was ready before it. -/
theorem restarted_ready_iff (s : State) (patchesRequest : Byte) (data : Mem)
    (hdata : IsEvent data hciCmndSimpleLinkStart) :
    (restarted s patchesRequest data).cc3000IsReady = 1 ∧
        (restarted s patchesRequest data).expect = 0 ↔
      s.cc3000IsReady = 1 := by
  obtain ⟨hdesired, hcurrent, hexpect⟩ := counters_restarted s patchesRequest data hdata
  rw [State.cc3000IsReady_eq_one, State.cc3000IsReady_eq_one, hdesired, hcurrent]
  constructor
  · rintro ⟨hcounters, -⟩
    exact (BitVec.add_left_inj 1).mp hcounters
  · intro hcounters
    rw [hcounters]
    exact ⟨rfl, hexpect⟩

def startEvent : Mem := fun i => [0x04, 0x00, 0x40].getD i 0

theorem restarted_ready_initial :
    (restarted (initial fun _ => 0) 0 startEvent).cc3000IsReady = 1 ∧
        (restarted (initial fun _ => 0) 0 startEvent).expect = 0 ↔
      (initial fun _ => 0).cc3000IsReady = 1 :=
  restarted_ready_iff (initial fun _ => 0) 0 startEvent (by decide)

/-- A socket request whose answer never came keeps the driver waiting over a restart. -/
theorem restart_stuck :
    IsEvent startEvent hciCmndSimpleLinkStart ∧
    ∃ s, Run (Takes RequestCounters.step) (initial fun _ => 0)
        [.request (.reqSocket 2 1 6)] s ∧
      ¬ ((restarted s 0 startEvent).cc3000IsReady = 1 ∧ (restarted s 0 startEvent).expect = 0) := by
  have hstep : Takes RequestCounters.step (initial fun _ => 0) (.request (.reqSocket 2 1 6))
      ((SocketOperations.cc3000ReqSocket 2 1 6).prog.exec (initial fun _ => 0)) := by
    have hprog : (Request.reqSocket 2 1 6).prog =
        some (SocketOperations.cc3000ReqSocket 2 1 6).prog := rfl
    have hready : (initial fun _ => 0).cc3000IsReady = 1 := rfl
    simp only [Takes, RequestCounters.step, hready, if_true, hprog, Option.map_some]
  refine ⟨by decide, _, Run.cons hstep (Run.nil _), fun h => ?_⟩
  obtain ⟨hdesired, hcurrent, -⟩ := counters_restarted _ 0 startEvent (by decide)
  have hready := (State.cc3000IsReady_eq_one _).mp h.1
  rw [hdesired, hcurrent, HciFrames.Command.exec_prog] at hready
  exact absurd hready (by decide)

end Cc3000Async.Restart
