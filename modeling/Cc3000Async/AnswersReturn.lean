import Cc3000Async.DescriptorSets
import Cc3000Async.LastWrites
import Cc3000Async.ReturnedValues
import Cc3000Async.SocketAddresses
import Cc3000Async.TakingEffect

/-!
The way back. What the reading functions give is the last block that a frame handed over,
whatever else was received, and wherever in a call the frames came.
-/
namespace Cc3000Async.AnswersReturn

open ByteMemory ByteBlocks LabelledRuns LastWrites Opcodes DriverState HciFrames EventHandler
open Requests DeviceFrames SocketOperations SocketResponses ReturnedValues SocketAddresses
open DescriptorSets InterruptInterleaving LinkRefinement DriverRefinement TakingEffect

/-- The block that a frame hands over, if it is of a kind that is copied. -/
def copied : Frame → Option (List Byte)
  | .event op args => if NormalEvent op then some args else none
  | .data op args payload =>
      if op.setWidth 16 = hciDataRecv then
        some (((dataFrame op args payload).drop 2).take ((2 * args.length + payload.length) % 256))
      else none

def handedOver : Act → Option (List Byte)
  | .receive f => copied f
  | .service f => copied f
  | _ => none

theorem returned_receive (l : Link) (f : Frame) :
    (l.receive f).returned = (copied f).getD l.returned := by
  cases f with
  | event op args =>
    have hmeet : (l.meet op).returned = l.returned := by
      unfold Link.meet
      split <;> rfl
    simp only [Link.receive, Link.event, copied, hmeet]
    split <;> rfl
  | data op args payload =>
    have hmeet : (l.meet (op.setWidth 16)).returned = l.returned := by
      unfold Link.meet
      split <;> rfl
    simp only [Link.receive, Link.data, copied, hmeet]
    split <;> rfl

theorem returned_request (m : Station) (r : Request) :
    (m.request r).link.returned = m.link.returned := by
  unfold Station.request
  split
  · cases r <;> rfl
  · rfl

theorem writes_returned : Writes Station.Moves (fun m => m.link.returned) handedOver := by
  rintro m l n ⟨-, rfl⟩
  cases l with
  | request r => exact returned_request m r
  | send sd buf len flags =>
    simp only [Station.step]
    split <;> rfl
  | getRecvBytes =>
    simp only [Station.step]
    split <;> rfl
  | receive f => exact returned_receive m.link f
  | service f =>
    change ((m.link.receive f).receive f).returned = (copied f).getD m.link.returned
    rw [returned_receive, returned_receive]
    cases copied f <;> rfl
  | _ => rfl

/-- Every reading function gives what stands in the block. -/
structure ReadsBack (s : State) (block : List Byte) : Prop where
  values : ∀ vs tail, block = encoded vs ++ tail → (encoded vs).length < 256 → ReadBack s 0 vs
  slices : StreamsSlices s block
  count : ∀ count, count < 256 → wordAt block 4 4 = some count →
    (cc3000GetRecvBytes s).val.1.toNat = count
  address : ∀ port addr, slice block 8 8 = some (addressBytes port addr) →
    ∀ sd before evtRet,
      YieldsAddress block port addr before (cc3000GetAccecpt sd before evtRet s).val
  select : ∀ status : BitVec 32, wordAt block 0 4 = some status.toNat → status.toInt ≤ 96 →
    ∀ readsds writesds exceptsds, ReportsSelect block status readsds writesds exceptsds
      (cc3000GetSelect readsds writesds exceptsds s).val

theorem readsBack_of_holds {s : State} {block : List Byte} (h : Holds s.returnBuffer 0 block) :
    ReadsBack s block := by
  refine ⟨fun vs tail hblock hlength => ?_, streamsSlices_of_holds h, fun count hcount hword => ?_,
    fun port addr haddr sd before evtRet => yieldsAddress_of_holds h haddr sd before evtRet,
    fun status hstatus hsmall => reportsSelect_of_holds h hstatus hsmall⟩
  · rw [hblock] at h
    have hzero : (0 : Byte).toNat = 0 := rfl
    exact readBack_of_holds vs 0 h.append_left (by omega)
  · have hvalue : (returnedWord32 s 4).val.toNat = count := returnedWord32_of_wordAt h hword
    have hbytes : (returnedWord32 s 4).val = word32 (s.returnBuffer 7) (s.returnBuffer 6)
        (s.returnBuffer 5) (s.returnBuffer 4) := rfl
    have hlt := (s.returnBuffer 4).isLt
    rw [hbytes, toNat_word32] at hvalue
    rw [val_cc3000GetRecvBytes, BitVec.toNat_setWidth]
    omega

/-- For every run in which receptions come between any two actions, from a state with nothing
on the bus that follows a station: wherever a frame may come, and where no call is under way,
the reading functions give the last block that a frame handed over. -/
theorem answers_return (decode : (ℕ → Byte) → Frame) (s : State) (m : Station)
    (h : Follows s m) (hbus : s.bus = []) (ls : List Label)
    (hmeant : Along (Takes step) (Meant decode) (idle s) ls) (c : Config)
    (hrun : Run (Takes step) (idle s) ls c)
    (hplace : c.st.interruptsEnabled = true ∨ c.rest = []) :
    ReadsBack c.st (lastWrite handedOver m.link.returned (effects decode s ls)) := by
  obtain ⟨w, n, hmoves, hprogress, -⟩ := progress_of_run h hbus hmeant hrun
  have hlink : LinkRefinement.Shows c.st n.link := by
    rcases hplace with henabled | hrest
    · exact hprogress.link henabled
    · exact (hprogress.at_rest hrest).2.1.link
  have hreturned : n.link.returned = _ := read_of_run writes_returned hmoves
  rw [← hreturned]
  exact readsBack_of_holds hlink.returned

/-- The answer to an accept: socket 3, from 10.0.0.7. -/
def acceptAnswer : List Byte :=
  [0, 0, 0, 0, 3, 0, 0, 0] ++ addressBytes 80 ⟨fun i => [10, 0, 0, 7].getD i.val 0⟩

/-- It comes while a socket is being requested. -/
theorem answers_return_accept :
    ∃ c, Run (Takes step) (idle listening) (interrupted (.event hciEvntAccept acceptAnswer)) c ∧
      ReadsBack c.st acceptAnswer := by
  let f : Frame := .event hciEvntAccept acceptAnswer
  have hproper : f.Proper := ⟨by decide, by decide, by decide, by decide⟩
  obtain ⟨c, hrun, hrest⟩ := run_interrupted f
  exact ⟨c, hrun, answers_return (fun _ => f) listening openingStation follows_listening rfl
    (interrupted f) (meant_interrupted hproper) c hrun (Or.inr hrest)⟩

end Cc3000Async.AnswersReturn
