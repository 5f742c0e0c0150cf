import Cc3000Async.IndependentUpdates
import Cc3000Async.Requests

/-!
Unsolicited events around a response. The handler's two groups of globals, those of
the request and those of the link, are views that the response and the unsolicited
events change apart from each other; so the outcome does not depend on when the
response comes.
-/
namespace Cc3000Async.UnsolicitedEvents

open ByteMemory IndependentUpdates Opcodes DriverState EventHandler Requests

/-- An event frame whose opcode is that of the free-buffer event or has the bit of an
unsolicited WLAN event. -/
def Unsolicited (data : Mem) : Prop :=
  data 0 = hciTypeEvent ∧
    (word16 (data 2) (data 1) = hciEvntDataUnsolFreeBuff ∨
      word16 (data 2) (data 1) &&& hciEvntWlanUnsolBase ≠ 0#16)

instance (data : Mem) : Decidable (Unsolicited data) := inferInstanceAs (Decidable (_ ∧ _))

/-- An opcode that some operation arms: a request, or reading the byte count. -/
def Armed (op : BitVec 16) : Prop := (∃ r : Request, r.Arms op) ∨ op = hciDataRecv

/-- What a response settles. -/
def requestView (s : State) : BitVec 32 × BitVec 16 × Mem :=
  (s.currentState, s.expect, s.returnBuffer)

/-- What unsolicited events report. -/
def linkView (s : State) : Byte × Cc3000State × Byte :=
  (s.freeBuffers, s.state, s.closeSocket)

def Expecting (op : BitVec 16) (s : State) : Prop := s.expect = op ∨ s.expect = 0

theorem armed_spec {op : BitVec 16} (h : Armed op) :
    op ≠ hciEvntDataUnsolFreeBuff ∧ op &&& hciEvntWlanUnsolBase = 0#16 := by
  rcases h with ⟨r, harms⟩ | rfl
  · obtain ⟨-, -, hfree, hwlan, -⟩ := armedOpcodes_spec op (arms_mem r op harms)
    exact ⟨hfree, hwlan⟩
  · decide

theorem expecting_handle {op : BitVec 16} (data : Mem) (s : State) (h : Expecting op s) :
    Expecting op (handle data s) := by
  unfold Expecting at h ⊢
  rw [handle_expect]
  split
  · exact Or.inr rfl
  · exact h

/-- A frame with an expected opcode is none of the events that touch the link. -/
theorem link_fixes {op : BitVec 16} (hop : Armed op) {r : Mem}
    (hr : frameOpcode r = some op) :
    Fixes handle (fun _ => True) linkView r := by
  obtain ⟨hfree, hwlan⟩ := armed_spec hop
  have hnot : ∀ x, x &&& hciEvntWlanUnsolBase ≠ 0#16 → ¬ IsEvent r x := by
    intro x hx hevent
    have heq := Option.some.inj ((frameOpcode_of_isEvent hevent).symm.trans hr)
    rw [heq] at hx
    exact hx hwlan
  have hnotFree : ¬ IsEvent r hciEvntDataUnsolFreeBuff := by
    intro hevent
    have heq := Option.some.inj ((frameOpcode_of_isEvent hevent).symm.trans hr)
    exact hfree heq.symm
  have hconnect := hnot hciEvntWlanUnsolConnect (by decide)
  have hdisconnect := hnot hciEvntWlanUnsolDisconnect (by decide)
  have hdhcp := hnot hciEvntWlanUnsolDhcp (by decide)
  have hclose := hnot hciEvntBsdTcpCloseWait (by decide)
  intro s _
  have hcredits : s.freeBuffers + credits r = s.freeBuffers := by
    rw [credits, if_neg hnotFree]
    exact BitVec.add_zero _
  have hlink : linkAfter r s.state = s.state := by
    rw [linkAfter, if_neg hconnect, if_neg hdisconnect, if_neg hdhcp]
  have hsocket : closeAfter r s.closeSocket = s.closeSocket := by
    rw [closeAfter, if_neg hclose]
  simp only [linkView, handle_freeBuffers, handle_state, handle_closeSocket, hcredits, hlink,
    hsocket]

theorem link_respects (data : Mem) : Respects handle linkView data := by
  intro s t hst
  simp only [linkView, Prod.mk.injEq] at hst
  obtain ⟨hfree, hstate, hclose⟩ := hst
  simp only [linkView, handle_freeBuffers, handle_state, handle_closeSocket, hfree, hstate,
    hclose]

/-- An opcode that is neither the free-buffer event's nor has the bit of a WLAN event is
no unsolicited event's. -/
theorem unsolicited_ne {op : BitVec 16} (hfree : op ≠ hciEvntDataUnsolFreeBuff)
    (hwlan : op &&& hciEvntWlanUnsolBase = 0#16) {u : Mem} (hu : Unsolicited u) :
    word16 (u 2) (u 1) ≠ op := by
  intro heq
  rcases hu.2 with hx | hx
  · exact hfree (heq.symm.trans hx)
  · rw [heq] at hx
    exact hx hwlan

/-- An unsolicited event completes nothing and copies nothing. -/
theorem request_fixes {op : BitVec 16} (hop : Armed op) {u : Mem} (hu : Unsolicited u) :
    Fixes handle (Expecting op) requestView u := by
  obtain ⟨hfree, hwlan⟩ := armed_spec hop
  have hframe : frameOpcode u = some (word16 (u 2) (u 1)) := by
    rw [frameOpcode, if_pos hu.1]
  have hnormal : ¬ NormalEvent (word16 (u 2) (u 1)) := by
    intro hnormal
    rcases hu.2 with heq | hbit
    · rw [heq] at hnormal
      exact absurd hnormal.1 (by decide)
    · exact hbit hnormal.2.1
  intro s hs
  have hmiss : frameOpcode u ≠ some s.expect := by
    rw [hframe]
    intro heq
    have hexpect := Option.some.inj heq
    rcases hs with hs | hs
    · exact unsolicited_ne hfree hwlan hu (hexpect.trans hs)
    · exact unsolicited_ne (by decide) (by decide) hu (hexpect.trans hs)
  have hcopy : copyReturn u s.returnBuffer = s.returnBuffer := by
    rw [copyReturn_of_event u _ hu.1, if_neg hnormal]
  simp only [requestView, handle_currentState, handle_expect, handle_returnBuffer,
    if_neg hmiss, hcopy]

theorem request_respects (data : Mem) : Respects handle requestView data := by
  intro s t hst
  simp only [requestView, Prod.mk.injEq] at hst
  obtain ⟨hcurrent, hexpect, hreturn⟩ := hst
  simp only [requestView, handle_currentState, handle_expect, handle_returnBuffer, hcurrent,
    hexpect, hreturn]

/-- For every state that expects an armed opcode, every frame with that opcode and every
list of unsolicited events around it: the request is settled as by the response alone,
and the link as by the events alone. -/
theorem response_commutes (op : BitVec 16) (hop : Armed op) (s : State)
    (hexpect : s.expect = op) (r : Mem) (hr : frameOpcode r = some op) (before after : List Mem)
    (hu : ∀ u ∈ before ++ after, Unsolicited u) :
    requestView (applyAll handle (before ++ r :: after) s) = requestView (handle r s) ∧
      linkView (applyAll handle (before ++ r :: after) s) =
        linkView (applyAll handle (before ++ after) s) := by
  constructor
  · apply view_insert_of_respects (I := Expecting op)
    · exact fun data _ s h => expecting_handle data s h
    · exact fun u hmem => request_fixes hop (hu u hmem)
    · exact request_respects r
    · exact Or.inl hexpect
  · apply view_insert_of_fixes (I := fun _ => True)
    · exact fun _ _ _ _ => trivial
    · exact link_fixes hop hr
    · exact fun data _ => link_respects data
    · trivial

/-- A socket event with no arguments, a connect event and a free-buffer event. -/
def socketEvent : Mem := fun i => [0x04, 0x01, 0x10].getD i 0
def connectEvent : Mem := fun i => [0x04, 0x01, 0x80].getD i 0
def freeBuffEvent : Mem := fun i => [0x04, 0x00, 0x41, 6, 0, 1, 0, 0, 0, 2, 0].getD i 0

def awaitingSocket : State :=
  (SocketOperations.cc3000ReqSocket 2 1 6).prog.exec (initial fun _ => 0)

theorem armed_socket : Armed hciEvntSocket := Or.inl ⟨.reqSocket 2 1 6, _, rfl, by decide⟩

theorem response_commutes_socket :
    requestView (applyAll handle [connectEvent, socketEvent, freeBuffEvent] awaitingSocket) =
        requestView (handle socketEvent awaitingSocket) ∧
      linkView (applyAll handle [connectEvent, socketEvent, freeBuffEvent] awaitingSocket) =
        linkView (applyAll handle [connectEvent, freeBuffEvent] awaitingSocket) := by
  have hu : ∀ u ∈ [connectEvent] ++ [freeBuffEvent], Unsolicited u := by
    intro u hmem
    simp only [List.cons_append, List.nil_append, List.mem_cons, List.not_mem_nil,
      or_false] at hmem
    rcases hmem with rfl | rfl <;> decide
  exact response_commutes hciEvntSocket armed_socket awaitingSocket (by decide) socketEvent
    (by decide) [connectEvent] [freeBuffEvent] hu

end Cc3000Async.UnsolicitedEvents
