import Cc3000Async.DeviceCommands
import Cc3000Async.InterruptInterleaving

/-!
From the calls of the application to what the device makes of the bytes. The bus is read as
transactions, these as frames, the frames as messages and the messages as operations; with
calls and receptions interleaved in any way, what comes out is what was asked for.
-/
namespace Cc3000Async.OperationsArrive

open ByteMemory ByteBlocks LabelledRuns Opcodes DriverState HciFrames SocketOperations
open FrameRoundTrip Requests ArgumentBlocks BusTransactions DeviceCommands
open InterruptInterleaving

def deviceOperations (bus : List BusEvent) : Option (List Operation) :=
  (deviceLog bus).bind fun ms => ms.mapM readMessage

/-- The operation that a call asks for; a send without a free buffer asks for none. -/
def askedByCall : Call → State → Option Operation
  | .request r, _ => asked r
  | .send sd buf len flags, s =>
      if s.freeBuffers = 0#8 then none
      else some (.send sd.toNat flags.toNat (bytesFrom buf len.toNat))
  | .stop, _ => none

def ReadableCall : Call → Prop
  | .request r => Readable r
  | _ => True

def Understood (c : Config) (l : Label) (t : Config) : Prop :=
  Admissible c l t ∧ ∀ k, l = .call k → ReadableCall k

theorem asked_of_command {r : Request} {c : Command} (hc : r.command = some c) :
    ∃ o, asked r = some o := by
  cases r with
  | socketMdnsAdvertise mdnsEnabled serviceName =>
    simp only [Request.command, Option.ite_none_left_eq_some] at hc
    exact ⟨_, if_neg hc.1⟩
  | _ => exact ⟨_, rfl⟩

theorem readData_send (sd : Byte) (buf : Mem) (len : BitVec 16) (flags : Byte) :
    readData (hciCmndSend.setWidth 8) (sendArgs sd len flags) (bytesFrom buf len.toNat) =
      some (.send sd.toNat flags.toNat (bytesFrom buf len.toNat)) := by
  have hargs : sendArgs sd len flags =
      (([sd.toNat, 12, len.toNat, flags.toNat] : List ℕ).map (toBytes 4)).flatten ++ [] := by
    simp [sendArgs]
  have hfit : ∀ v ∈ [sd.toNat, 12, len.toNat, flags.toNat], v < 256 ^ 4 := by
    have hsd := sd.isLt
    have hlen := len.isLt
    have hflags := flags.isLt
    simp only [List.mem_cons, List.not_mem_nil, or_false, forall_eq_or_imp, forall_eq]
    omega
  have htake : takeWords 4 4 (sendArgs sd len flags) =
      some ([sd.toNat, 12, len.toNat, flags.toNat], []) := by
    rw [hargs]
    exact takeWords_append hfit []
  have hcount : ([] : List Byte) = [] ∧
      [sd.toNat, 12, len.toNat, flags.toNat].getD 2 0 = (bytesFrom buf len.toNat).length :=
    ⟨rfl, (length_bytesFrom _ _).symm⟩
  rw [readData, if_pos rfl, htake, Option.bind_some, if_pos hcount]
  rfl

/-- What a call puts on the bus is read as what it asks for. -/
theorem readMessage_messages {k : Call} {s t : State} {p : Prog} (hproper : k.Proper s)
    (hreadable : ReadableCall k) (hbegin : k.begin s = some (t, p)) :
    (k.messages s).map readMessage = (askedByCall k s).toList.map some := by
  cases k with
  | request r =>
    simp only [Call.begin, Option.map_eq_some_iff, Prod.mk.injEq] at hbegin
    obtain ⟨p', hp, -, -⟩ := hbegin
    cases hc : r.command with
    | some c =>
      obtain ⟨o, ho⟩ := asked_of_command hc
      have hread := readCommand_asked r c hc hreadable
      rw [ho] at hread
      rw [messages_of_command hc, askedByCall, ho]
      exact congrArg (fun x => [x]) hread
    | none =>
      obtain ⟨patchesRequest, rfl⟩ | rfl | ⟨mdnsEnabled, serviceName, rfl, hlong, -⟩ |
        ⟨profile, rfl, hknown⟩ := cases_of_command_none r p' hp hc
      · rfl
      · rfl
      · simp only [Call.messages, hc, askedByCall, asked, if_pos hlong]
        rfl
      · exact absurd hproper.1 hknown
  | send sd buf len flags =>
    by_cases hfree : s.freeBuffers = 0#8
    · simp [Call.messages, askedByCall, hfree]
    · have hread := readData_send sd buf len flags
      simp only [Call.messages, askedByCall, if_neg hfree]
      exact congrArg (fun x => [x]) hread
  | stop => rfl

theorem mapM_readMessage {ms : List Message} {os : List Operation}
    (h : ms.map readMessage = os.map some) : ms.mapM readMessage = some os := by
  induction ms generalizing os with
  | nil =>
    rw [List.map_eq_nil_iff.mp h.symm]
    rfl
  | cons m ms ih =>
    cases os with
    | nil => exact absurd h (List.cons_ne_nil _ _)
    | cons o os =>
      rw [List.map_cons, List.map_cons, List.cons.injEq] at h
      rw [List.mapM_cons, h.1, ih h.2]
      rfl

end Cc3000Async.OperationsArrive
