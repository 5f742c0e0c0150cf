import Cc3000Async.LabelledRuns
import Cc3000Async.SpiReceive

/-!
The service loop of the application: a reception, which handles the frame it accepts,
and then the handler once more on whatever the receive buffer holds. A frame takes
effect once where handling it again changes nothing, and a refused reception is
without effect where the frame of an earlier one has nothing left to do.
-/
namespace Cc3000Async.ServiceLoop

open ByteMemory TracedAccess LabelledRuns Opcodes DriverState EventHandler SpiReceive

/-- The body of the loop in `main`, with the result of the reception, which `main`
does not look at. -/
def service (s : State) : Traced Access (BitVec 16 × State) := do
  let received ← cc3000SpiReceive (Action.interruptDisable.exec s)
  let s := Action.interruptEnable.exec received.2
  let handled ← cc3000EventHandler s.spiRxBuffer s
  pure (received.1, handled.2)

def arrives (reply : ℕ → Byte) (s : State) : State := { s with miso := reply, misoPos := 0 }

def step (s : State) (reply : ℕ → Byte) : Option State := some (service (arrives reply s)).val.2

/-- What an iteration owes: an accepted frame is handled once, and a refused one leaves
the driver as it was. -/
structure ExactlyOnce (s : State) (reply : ℕ → Byte) (t : State) : Prop where
  accepted : (service (arrives reply s)).val.1 = 1 →
    t.globals = (handle (receivedBuffer (arrives reply s)) s).globals
  refused : (service (arrives reply s)).val.1 = 0 →
    t.currentState = s.currentState ∧ t.expect = s.expect ∧ t.freeBuffers = s.freeBuffers ∧
      t.returnBuffer = s.returnBuffer ∧ t.state = s.state

/-- The frame can be handled a second time for nothing: it gives no buffers back, and is
not taken for an answer once nothing is expected. -/
structure Repeatable (data : Mem) (s : State) : Prop where
  noCredits : credits data = 0
  noAnswer : s.expect = 0 → frameOpcode data ≠ some 0

/-- The frame has nothing to do: it is not expected, gives no buffers back, and its
block, its link state and its address are those the driver already has. -/
structure Spent (data : Mem) (s : State) : Prop where
  unexpected : frameOpcode data ≠ some s.expect
  noCredits : credits data = 0
  copied : ∀ offset size, copyBlock data = some (offset, size) →
    ∀ i, i < size → data (i + offset) = s.returnBuffer i
  connected : IsEvent data hciEvntWlanUnsolConnect → s.state.connected = 1
  disconnected : IsEvent data hciEvntWlanUnsolDisconnect → s.state.connected = 0
  address : IsEvent data hciEvntWlanUnsolDhcp →
    s.state.ip = ![data 5, data 6, data 7, data 8] ∧ s.state.dhcpComplete = 1

structure Harmless (s : State) (reply : ℕ → Byte) (_ : State) : Prop where
  accepted : Accepts (arrives reply s) → Repeatable (receivedBuffer (arrives reply s)) s
  refused : ¬ Accepts (arrives reply s) → Spent s.spiRxBuffer s

/-- The second time, the handler finds nothing expected that it does not find the first
time, and everything already copied. -/
theorem handle_handle_iff (data : Mem) (s : State) :
    handle data (handle data s) = handle data s ↔ Repeatable data s := by
  have hcurrent := handle_currentState data (handle data s)
  have hexpect := handle_expect data (handle data s)
  have hfirst := handle_expect data s
  constructor
  · intro h
    constructor
    · have hfree := congrArg State.freeBuffers h
      rw [handle_freeBuffers data (handle data s)] at hfree
      exact (BitVec.add_right_eq_self).mp hfree
    · intro hidle hzero
      have hmet : frameOpcode data = some s.expect := by
        rw [hidle]
        exact hzero
      rw [if_pos hmet] at hfirst
      rw [h, hfirst, if_pos hzero] at hcurrent
      bv_omega
  · rintro ⟨hcredits, hanswer⟩
    have hagain : frameOpcode data ≠ some (handle data s).expect := by
      rw [hfirst]
      split_ifs with hmet
      · intro hzero
        have heq := Option.some.inj (hmet.symm.trans hzero)
        exact hanswer heq hzero
      · exact hmet
    rw [handle_eq data (handle data s), if_neg hagain, if_neg hagain, handle_returnBuffer,
      copyReturn_copyReturn, handle_state, linkAfter_linkAfter, handle_closeSocket,
      closeAfter_closeAfter, ← handle_returnBuffer, ← handle_state, ← handle_closeSocket,
      BitVec.add_right_eq_self.mpr hcredits]

theorem linkAfter_eq_self_iff (data : Mem) (c : Cc3000State) :
    linkAfter data c = c ↔
      (IsEvent data hciEvntWlanUnsolConnect → c.connected = 1) ∧
      (IsEvent data hciEvntWlanUnsolDisconnect → c.connected = 0) ∧
      (IsEvent data hciEvntWlanUnsolDhcp →
        c.ip = ![data 5, data 6, data 7, data 8] ∧ c.dhcpComplete = 1) := by
  obtain ⟨hevent, hlink⟩ | ⟨hevent, hlink⟩ | ⟨hevent, hlink⟩ |
    ⟨hconnect, hdisconnect, hdhcp, hlink⟩ := linkAfter_cases data c
  · rw [hlink]
    constructor
    · intro h
      have hfield := congrArg Cc3000State.connected h
      exact ⟨fun _ => hfield.symm, fun hother => absurd (isEvent_unique hevent hother) (by decide),
        fun hother => absurd (isEvent_unique hevent hother) (by decide)⟩
    · intro h
      rw [← h.1 hevent]
  · rw [hlink]
    constructor
    · intro h
      have hfield := congrArg Cc3000State.connected h
      exact ⟨fun hother => absurd (isEvent_unique hevent hother) (by decide),
        fun _ => hfield.symm, fun hother => absurd (isEvent_unique hevent hother) (by decide)⟩
    · intro h
      rw [← h.2.1 hevent]
  · rw [hlink]
    constructor
    · intro h
      have hip := congrArg Cc3000State.ip h
      have hfield := congrArg Cc3000State.dhcpComplete h
      exact ⟨fun hother => absurd (isEvent_unique hevent hother) (by decide),
        fun hother => absurd (isEvent_unique hevent hother) (by decide),
        fun _ => ⟨hip.symm, hfield.symm⟩⟩
    · intro h
      obtain ⟨hip, hfield⟩ := h.2.2 hevent
      rw [← hip, ← hfield]
  · rw [hlink]
    exact ⟨fun _ => ⟨fun h => absurd h hconnect, fun h => absurd h hdisconnect,
      fun h => absurd h hdhcp⟩, fun _ => rfl⟩

theorem copyReturn_eq_self_iff (data buffer : Mem) :
    copyReturn data buffer = buffer ↔
      ∀ offset size, copyBlock data = some (offset, size) →
        ∀ i, i < size → data (i + offset) = buffer i := by
  unfold copyReturn
  cases hblock : copyBlock data with
  | none => simp
  | some block =>
    rw [overlay_eq_self_iff]
    constructor
    · intro h offset size heq
      cases heq
      exact h
    · intro h
      exact h _ _ rfl

/-- The handler leaves the variables named in the contract alone exactly on a spent
frame. -/
theorem handle_unchanged_iff (data : Mem) (s : State) :
    ((handle data s).currentState = s.currentState ∧ (handle data s).expect = s.expect ∧
      (handle data s).freeBuffers = s.freeBuffers ∧
      (handle data s).returnBuffer = s.returnBuffer ∧ (handle data s).state = s.state) ↔
    Spent data s := by
  have hlink := linkAfter_eq_self_iff data s.state
  have hcopy := copyReturn_eq_self_iff data s.returnBuffer
  rw [handle_currentState, handle_expect, handle_freeBuffers, handle_returnBuffer,
    handle_state, hlink, hcopy, BitVec.add_right_eq_self]
  constructor
  · rintro ⟨hcurrent, -, hcredits, hcopied, hconnect, hdisconnect, hdhcp⟩
    refine ⟨?_, hcredits, hcopied, hconnect, hdisconnect, hdhcp⟩
    intro hmet
    rw [if_pos hmet] at hcurrent
    bv_omega
  · rintro ⟨hmiss, hcredits, hcopied, hconnect, hdisconnect, hdhcp⟩
    rw [if_neg hmiss, if_neg hmiss]
    exact ⟨rfl, rfl, hcredits, hcopied, hconnect, hdisconnect, hdhcp⟩

theorem globals_interruptEnable (t : State) :
    (Action.interruptEnable.exec t).globals = t.globals := rfl

theorem spiRxBuffer_interruptEnable (t : State) :
    (Action.interruptEnable.exec t).spiRxBuffer = t.spiRxBuffer := rfl

theorem val_service (s : State) :
    (service s).val =
      ((cc3000SpiReceive (Action.interruptDisable.exec s)).val.1,
        handle (cc3000SpiReceive (Action.interruptDisable.exec s)).val.2.spiRxBuffer
          (Action.interruptEnable.exec
            (cc3000SpiReceive (Action.interruptDisable.exec s)).val.2)) := by
  simp only [service, Traced.val_bind, Traced.val_pure, handle, spiRxBuffer_interruptEnable]

theorem service_of_accepts (s : State) (h : Accepts s) :
    (service s).val.1 = 1 ∧
      (service s).val.2.globals =
        (handle (receivedBuffer s) (handle (receivedBuffer s) s)).globals := by
  obtain ⟨hresult, hbuffer, hglobals⟩ := receive_of_accepts (Action.interruptDisable.exec s) h
  have hsame : receivedBuffer (Action.interruptDisable.exec s) = receivedBuffer s := rfl
  have hdisable : (Action.interruptDisable.exec s).globals = s.globals := rfl
  rw [val_service]
  refine ⟨hresult, ?_⟩
  rw [hbuffer, handle_globals, globals_interruptEnable, hglobals, hsame, handle_globals,
    hdisable, handle_globals, handle_globals]

/-- After a refused reception the handler is given the frame of an earlier one. -/
theorem service_of_not_accepts (s : State) (h : ¬ Accepts s) :
    (service s).val.1 = 0 ∧
      (service s).val.2.globals = (handle s.spiRxBuffer s).globals := by
  obtain ⟨hresult, hbuffer, hglobals⟩ :=
    receive_of_not_accepts (Action.interruptDisable.exec s) h
  have hsame : (Action.interruptDisable.exec s).spiRxBuffer = s.spiRxBuffer := rfl
  have hdisable : (Action.interruptDisable.exec s).globals = s.globals := rfl
  rw [val_service]
  refine ⟨hresult, ?_⟩
  rw [hbuffer, handle_globals, globals_interruptEnable, hglobals, hsame, hdisable,
    handle_globals]

/-- One iteration is as it should be exactly when the frame it hands to the handler, a
second time or out of turn, is harmless. -/
theorem exactlyOnce_iff {s t : State} {reply : ℕ → Byte} (hstep : Takes step s reply t) :
    ExactlyOnce s reply t ↔ Harmless s reply t := by
  have ht : (service (arrives reply s)).val.2 = t := Option.some.inj hstep
  have harrives : (arrives reply s).globals = s.globals := rfl
  by_cases haccept : Accepts (arrives reply s)
  · obtain ⟨hresult, hglobals⟩ := service_of_accepts (arrives reply s) haccept
    have htwice := handle_handle_iff (receivedBuffer (arrives reply s)) s.globals
    rw [ht, handle_globals, handle_globals, harrives] at hglobals
    constructor
    · intro h
      refine ⟨fun _ => ?_, fun hnot => absurd haccept hnot⟩
      have honce := h.accepted hresult
      rw [hglobals, handle_globals] at honce
      have hrepeat := htwice.mp honce
      exact ⟨hrepeat.noCredits, hrepeat.noAnswer⟩
    · intro h
      obtain ⟨hcredits, hanswer⟩ := h.accepted haccept
      refine ⟨fun _ => ?_, fun hzero => absurd (hresult.symm.trans hzero) (by decide)⟩
      rw [hglobals, handle_globals]
      exact htwice.mpr ⟨hcredits, hanswer⟩
  · obtain ⟨hresult, hglobals⟩ := service_of_not_accepts (arrives reply s) haccept
    have hspent := handle_unchanged_iff s.spiRxBuffer s.globals
    have hstale : (arrives reply s).spiRxBuffer = s.spiRxBuffer := rfl
    rw [ht, handle_globals, harrives, hstale] at hglobals
    rw [← hglobals] at hspent
    constructor
    · intro h
      refine ⟨fun hyes => absurd hyes haccept, fun _ => ?_⟩
      have hdone := hspent.mp (h.refused hresult)
      exact ⟨hdone.unexpected, hdone.noCredits, hdone.copied, hdone.connected,
        hdone.disconnected, hdone.address⟩
    · intro h
      obtain ⟨hmiss, hcredits, hcopied, hconnect, hdisconnect, hdhcp⟩ := h.refused haccept
      refine ⟨fun hone => absurd (hresult.symm.trans hone) (by decide), fun _ => ?_⟩
      exact hspent.mpr ⟨hmiss, hcredits, hcopied, hconnect, hdisconnect, hdhcp⟩

/-- For every state and every sequence of transmissions: all iterations are as they
should be exactly when all of them are harmless. -/
theorem service_once_iff (s : State) (replies : List (ℕ → Byte)) :
    Along (Takes step) ExactlyOnce s replies ↔ Along (Takes step) Harmless s replies := by
  apply along_iff (I := fun _ => True)
  · exact fun _ _ _ _ hstep => exactlyOnce_iff hstep
  · exact fun _ _ _ _ _ _ => trivial
  · trivial

/-- A free-buffer event with one entry: one packet of socket 0 freed. -/
def oneFreed : ℕ → Byte := fun i =>
  [0, 11, 0x04, 0x00, 0x41, 6, 0, 1, 0, 0, 0, 1, 0].getD i 0

/-- Its one credit is counted twice. -/
theorem credit_counted_twice :
    (service (arrives oneFreed (initial fun _ => 0))).val.2.freeBuffers = 2 ∧
      ¬ Along (Takes step) ExactlyOnce (initial fun _ => 0) [oneFreed] := by
  refine ⟨by decide, ?_⟩
  intro h
  have honce := (h _ rfl).1.accepted (by decide)
  exact absurd (congrArg State.freeBuffers honce) (by decide)

end Cc3000Async.ServiceLoop
