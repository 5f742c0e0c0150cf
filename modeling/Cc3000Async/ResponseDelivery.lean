import Cc3000Async.DeviceFrames
import Cc3000Async.Requests

/-!
What the response to a request leaves behind. Completion is decided before the
dispatch and delivery by it, so an opcode that carries the bit of an unsolicited
event completes its request without its arguments ever reaching the return buffer.
-/
namespace Cc3000Async.ResponseDelivery

open ByteMemory Opcodes TracedAccess DriverState EventHandler DeviceFrames Requests

/-- The response has completed the request and its arguments are what a getter reads. -/
structure Delivered (args : List Byte) (data : Mem) (s : State) : Prop where
  ready : (handle data s).cc3000IsReady = 1
  expect : (handle data s).expect = 0
  payload : Holds (handle data s).returnBuffer 0 args
  kept : ∀ i, args.length ≤ i → (handle data s).returnBuffer i = s.returnBuffer i
  getter : ∀ (offset : Byte) (h : offset.toNat < args.length),
    (cc3000GetReturnUint8 (handle data s) offset).val = args[offset.toNat]
  bufferSize : ∀ h : 3 ≤ args.length,
    (cc3000GeneralGetBufferSize (handle data s)).val.2.freeBuffers = args[0] ∧
      (cc3000GeneralGetBufferSize (handle data s)).val.2.bufferLength = word16 args[2] args[1]

/-- A getter sees the response as soon as the return buffer holds it. -/
theorem getters_of_holds {args : List Byte} {t : State} (h : Holds t.returnBuffer 0 args) :
    (∀ (offset : Byte) (hlt : offset.toNat < args.length),
      (cc3000GetReturnUint8 t offset).val = args[offset.toNat]) ∧
    ∀ hlen : 3 ≤ args.length,
      (cc3000GeneralGetBufferSize t).val.2.freeBuffers = args[0] ∧
        (cc3000GeneralGetBufferSize t).val.2.bufferLength = word16 args[2] args[1] := by
  refine ⟨fun offset hlt => ?_, fun hlen => ⟨?_, ?_⟩⟩
  · have hat := h offset.toNat hlt
    exact hat
  · exact h.at_zero 0 (by omega)
  · have hmsb := h.at_zero 2 (by omega)
    have hlsb := h.at_zero 1 (by omega)
    change word16 (t.returnBuffer 2) (t.returnBuffer 1) = _
    rw [hmsb, hlsb]

/-- Among the expected opcodes, those without the bit of an unsolicited event are
copied and the others are not. -/
theorem normalEvent_armed {op : BitVec 16} (h : op ∈ armedOpcodes) :
    NormalEvent op ↔ op &&& hciEvntUnsolBase = 0#16 := by
  obtain ⟨-, -, -, hwlan, hlabel⟩ := armedOpcodes_spec op h
  unfold NormalEvent
  constructor
  · intro hnormal
    exact hnormal.1
  · intro hbit
    exact ⟨hbit, hwlan, hlabel⟩

/-- Whatever its opcode, the expected event completes the request. -/
theorem completed {op : BitVec 16} {args : List Byte} {data : Mem} {s : State}
    (hframe : Holds data 0 (eventFrame op args)) (hexpect : s.expect = op)
    (hout : s.desiredState = s.currentState + 1) :
    (handle data s).cc3000IsReady = 1 ∧ (handle data s).expect = 0 := by
  have hop : frameOpcode data = some s.expect := by
    rw [hexpect]
    exact frameOpcode_event hframe
  constructor
  · rw [State.cc3000IsReady_eq_one, handle_desiredState, handle_currentState, if_pos hop, hout]
  · rw [handle_expect, if_pos hop]

/-- For every request, every state with that request outstanding and every response:
the response is delivered exactly when its opcode lacks the bit of an unsolicited
event, or the return buffer already holds the response's arguments. -/
theorem delivered_iff (r : Request) (op : BitVec 16) (harms : r.Arms op) (s : State)
    (hexpect : s.expect = op) (hout : s.desiredState = s.currentState + 1)
    (args : List Byte) (hlen : args.length ≤ 245) (data : Mem)
    (hframe : Holds data 0 (eventFrame op args)) :
    Delivered args data s ↔
      op &&& hciEvntUnsolBase = 0#16 ∨ Holds s.returnBuffer 0 args := by
  obtain ⟨hready, hzero⟩ := completed hframe hexpect hout
  have hnormal := normalEvent_armed (arms_mem r op harms)
  have hcopy := copyReturn_event hframe (by omega) s.returnBuffer
  by_cases hbit : op &&& hciEvntUnsolBase = 0#16
  · rw [if_pos (hnormal.mpr hbit)] at hcopy
    have hpayload : Holds (handle data s).returnBuffer 0 args := by
      rw [handle_returnBuffer, hcopy]
      exact holds_overlay (event_args hframe)
    obtain ⟨hgetter, hsize⟩ := getters_of_holds hpayload
    refine ⟨fun _ => Or.inl hbit, fun _ => ⟨hready, hzero, hpayload, ?_, hgetter, hsize⟩⟩
    intro i hi
    rw [handle_returnBuffer, hcopy, overlay_ge _ _ hi]
  · rw [if_neg (mt hnormal.mp hbit)] at hcopy
    have hsame : (handle data s).returnBuffer = s.returnBuffer := by
      rw [handle_returnBuffer, hcopy]
    constructor
    · intro h
      have hpayload := h.payload
      rw [hsame] at hpayload
      exact Or.inr hpayload
    · intro h
      have hpayload : Holds (handle data s).returnBuffer 0 args := by
        rw [hsame]
        exact h.resolve_left hbit
      obtain ⟨hgetter, hsize⟩ := getters_of_holds hpayload
      exact ⟨hready, hzero, hpayload, fun i _ => by rw [hsame], hgetter, hsize⟩

def awaitingSocket : State :=
  (SocketOperations.cc3000ReqSocket 2 1 6).prog.exec (initial fun _ => 0)

def socketArgs : List Byte := [0x03, 0x02, 0x01, 0x00]

/-- The return buffer does not hold the arguments before the answer comes. -/
theorem delivered_iff_socket :
    (Request.reqSocket 2 1 6).Arms hciEvntSocket ∧
      ¬ Holds awaitingSocket.returnBuffer 0 socketArgs ∧
      Delivered socketArgs (withPrefix (eventFrame hciEvntSocket socketArgs) fun _ => 0)
        awaitingSocket := by
  have harms : (Request.reqSocket 2 1 6).Arms hciEvntSocket := ⟨_, rfl, by decide⟩
  refine ⟨harms, fun h => ?_, ?_⟩
  · exact absurd (h.at_zero 0 (by decide)) (by decide)
  · refine (delivered_iff (.reqSocket 2 1 6) _ harms awaitingSocket ?_ ?_ _ (by decide) _ ?_).mpr
      (Or.inl (by decide))
    · decide
    · decide
    · exact holds_withPrefix _ _

def awaitingBufferSize : State := cc3000GeneralReqBufferSize.exec (initial fun _ => 0)

/-- Six free buffers of 1460 bytes. -/
def bufferSizeArgs : List Byte := [0x06, 0xb4, 0x05]

def bufferSizeData : Mem := withPrefix (eventFrame hciCmndReadBufferSize bufferSizeArgs) fun _ => 0

/-- The answer to the buffer-size request completes it but is not delivered: the
getter reads no free buffers. -/
theorem bufferSize_not_delivered :
    Request.generalReqBufferSize.Arms hciCmndReadBufferSize ∧
      awaitingBufferSize.expect = hciCmndReadBufferSize ∧
      awaitingBufferSize.desiredState = awaitingBufferSize.currentState + 1 ∧
      Holds bufferSizeData 0 (eventFrame hciCmndReadBufferSize bufferSizeArgs) ∧
      ¬ Delivered bufferSizeArgs bufferSizeData awaitingBufferSize := by
  refine ⟨⟨_, rfl, by decide⟩, by decide, by decide, holds_withPrefix _ _, ?_⟩
  intro h
  have hfree := h.getter 0 (by decide)
  exact absurd hfree (by decide)

end Cc3000Async.ResponseDelivery
