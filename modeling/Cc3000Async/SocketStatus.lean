import Cc3000Async.BitSets
import Cc3000Async.LabelledRuns
import Cc3000Async.SocketResponses

/-!
The status word of the sockets as a map. Eight bits of the word hold the status of one
socket each. Whatever sequence of calls changes the word, it keeps showing the map that
the calls are meant to change, and its other bits are never touched.
-/
namespace Cc3000Async.SocketStatus

open ByteMemory BitSets LabelledRuns DriverState HciFrames EventHandler
open SocketOperations SocketResponses

inductive Status
  | active
  | inactive
  deriving DecidableEq, Repr

def Status.value : Status → BitVec 32
  | .active => socketStatusActive
  | .inactive => socketStatusInactive

/-- The status of every socket there is. -/
abbrev SocketMap := Fin 8 → Status

namespace SocketMap

def allInactive : SocketMap := fun _ => .inactive

/-- Change the status of a socket; a number that is no socket's changes nothing. -/
def write (m : SocketMap) (sd : ℤ) (status : Status) : SocketMap := fun i =>
  if (i.val : ℤ) = sd then status else m i

/-- The status of a socket; what is no socket is inactive. -/
def read (m : SocketMap) (sd : Byte) : BitVec 32 :=
  if h : sd.toNat < 8 then (m ⟨sd.toNat, h⟩).value else socketStatusInactive

end SocketMap

/-- A call that may change a status, an accept with the value it returns; and a frame that
is handled in between, which may store a response. -/
inductive Call
  | setSocketActiveStatus (sd : Byte) (status : BitVec 32)
  | socketClose (sd : Byte)
  | getAccecpt (sd : Byte) (ret : BitVec 32)
  | handled (data : Mem)

def Step (s : State) (call : Call) (t : State) : Prop :=
  match call with
  | .setSocketActiveStatus sd status => t = s.setSocketActiveStatus sd status
  | .socketClose sd => t = (cc3000SocketClose sd).exec s
  | .getAccecpt sd ret => ∃ addr evtRet,
      (cc3000GetAccecpt sd addr evtRet s).val.ret = ret ∧
        (cc3000GetAccecpt sd addr evtRet s).val.state = t
  | .handled data => t = handle data s

def SocketMap.step (m : SocketMap) : Call → SocketMap
  | .setSocketActiveStatus sd status =>
      if status = socketStatusActive then m.write sd.toNat .active
      else if status = socketStatusInactive then m.write sd.toNat .inactive
      else m
  | .socketClose sd => m.write sd.toNat .inactive
  | .getAccecpt sd ret =>
      if 0 ≤ ret.toInt ∧ ret.toInt ≤ 7 then m.write ret.toInt .active
      else m.write sd.toNat .inactive
  | .handled _ => m

/-- The word shows the map, and above it what it started with. -/
structure Shows (word : BitVec 32) (m : SocketMap) : Prop where
  low : ∀ i : Fin 8, word.getLsbD i = decide (m i = .inactive)
  high : ∀ i, 8 ≤ i → word.getLsbD i = socketStatusInitVal.getLsbD i

theorem shows_init : Shows socketStatusInitVal .allInactive := ⟨by decide, fun _ _ => rfl⟩

theorem value_eq (status : Status) :
    status.value = if decide (status = .inactive) then 1#32 else 0#32 := by
  cases status <;> rfl

theorem mIsValidStatus_value (status : Status) : mIsValidStatus status.value := by
  cases status
  · exact Or.inl rfl
  · exact Or.inr rfl

theorem shows_write {s : State} {m : SocketMap} (h : Shows s.socketActiveStatus m) (sd : Byte)
    (status : Status) :
    Shows (s.setSocketActiveStatus sd status.value).socketActiveStatus
      (m.write sd.toNat status) := by
  by_cases hsd : mIsValidSd sd
  · have hle : sd.toNat ≤ 7 := hsd
    have hword : (s.setSocketActiveStatus sd status.value).socketActiveStatus =
        s.socketActiveStatus &&& ~~~(1#32 <<< sd.toNat) ||| status.value <<< sd.toNat := by
      rw [State.setSocketActiveStatus, if_pos ⟨hsd, mIsValidStatus_value status⟩]
    have hbit := getLsbD_write s.socketActiveStatus ⟨sd.toNat, by omega⟩
      (decide (status = .inactive))
    rw [← value_eq] at hbit
    constructor
    · intro i
      rw [hword, hbit, SocketMap.write]
      by_cases hi : i.val = sd.toNat
      · rw [if_pos hi, if_pos (Int.natCast_inj.mpr hi)]
      · rw [if_neg hi, if_neg (mt Int.natCast_inj.mp hi)]
        exact h.low i
    · intro i hi
      have hne : i ≠ sd.toNat := by omega
      rw [hword, hbit, if_neg hne]
      exact h.high i hi
  · have hgt : ¬ sd.toNat ≤ 7 := hsd
    have hmap : m.write sd.toNat status = m := by
      funext i
      have hi := i.isLt
      exact if_neg (by omega)
    rw [hmap, State.setSocketActiveStatus, if_neg fun hboth => hsd hboth.1]
    exact h

theorem shows_step {s t : State} {m : SocketMap} {call : Call}
    (h : Shows s.socketActiveStatus m) (hstep : Step s call t) :
    Shows t.socketActiveStatus (m.step call) := by
  cases call with
  | setSocketActiveStatus sd status =>
    have hstate : t = s.setSocketActiveStatus sd status := hstep
    rw [hstate, SocketMap.step]
    split_ifs with hactive hinactive
    · rw [hactive]
      exact shows_write h sd .active
    · rw [hinactive]
      exact shows_write h sd .inactive
    · have hinvalid : ¬ mIsValidStatus status := fun hvalid =>
        hvalid.elim hactive hinactive
      rw [State.setSocketActiveStatus, if_neg fun hboth => hinvalid hboth.2]
      exact h
  | socketClose sd =>
    have hstate : t = (cc3000SocketClose sd).exec s := hstep
    have hword : ((closeCommand sd).prog.exec s).socketActiveStatus = s.socketActiveStatus := by
      rw [Command.exec_prog]
    rw [← hword] at h
    rw [hstate, cc3000SocketClose, Prog.exec_append]
    exact shows_write h sd .inactive
  | getAccecpt sd ret =>
    obtain ⟨addr, evtRet, hret, hstate⟩ := hstep
    rw [val_cc3000GetAccecpt] at hret hstate
    have hvalue : (cc3000GetReturnInt32 s 4).val = ret := hret
    rw [hvalue] at hstate
    subst hstate
    rw [SocketMap.step]
    by_cases hvalid : mIsValidSdInt32 ret
    · obtain ⟨hpos, hle⟩ := hvalid
      -- a value in the range of the sockets is the byte that it is narrowed to
      have hbyte : ret.toInt = (ret.setWidth 8).toNat := by
        rw [BitVec.toNat_setWidth]
        rw [BitVec.toInt_eq_toNat_cond] at hpos hle ⊢
        split at hpos <;> omega
      rw [if_pos ⟨hpos, hle⟩, if_pos ⟨hpos, hle⟩, hbyte]
      exact shows_write h (ret.setWidth 8) .active
    · have hrange : ¬ (0 ≤ ret.toInt ∧ ret.toInt ≤ 7) := hvalid
      rw [if_neg hvalid, if_neg hrange]
      exact shows_write h sd .inactive
  | handled data =>
    have hstate : t = handle data s := hstep
    have hword : (handle data s).socketActiveStatus = s.socketActiveStatus := by
      rw [handle_eq]
    rw [hstate, hword]
    exact h

/-- The status of a socket is read from the map that the word shows. -/
theorem getSocketActiveStatus_eq {s : State} {m : SocketMap}
    (h : Shows s.socketActiveStatus m) (sd : Byte) :
    getSocketActiveStatus s sd = m.read sd := by
  by_cases hsd : mIsValidSd sd
  · have hlt : sd.toNat < 8 := Nat.lt_succ_of_le hsd
    have htest := and_mask_ne_zero s.socketActiveStatus ⟨sd.toNat, by omega⟩
    have hbit := h.low ⟨sd.toNat, hlt⟩
    rw [mem_bits, hbit, decide_eq_true_iff] at htest
    rw [getSocketActiveStatus, if_pos hsd, SocketMap.read, dif_pos hlt]
    cases hstatus : m ⟨sd.toNat, hlt⟩ with
    | active =>
      rw [hstatus] at htest
      exact if_neg (mt htest.mp (by decide))
    | inactive => exact if_pos (htest.mpr hstatus)
  · have hge : ¬ sd.toNat < 8 := fun hlt => hsd (Nat.le_of_lt_succ hlt)
    rw [getSocketActiveStatus, if_neg hsd, SocketMap.read, dif_neg hge]

/-- For every run of calls from the initial word, with frames handled in between: each
status is the one in the map, and the bits above the sockets' are as they were. -/
theorem socketStatus_refines (s t : State) (calls : List Call) (h : Run Step s calls t)
    (hinit : s.socketActiveStatus = socketStatusInitVal) :
    (∀ sd, getSocketActiveStatus t sd = (calls.foldl .step .allInactive : SocketMap).read sd) ∧
      (∀ sd : Byte, 7 < sd.toNat → getSocketActiveStatus t sd = socketStatusInactive) ∧
      ∀ i, 8 ≤ i → t.socketActiveStatus.getLsbD i = socketStatusInitVal.getLsbD i := by
  have hstart : Shows s.socketActiveStatus .allInactive := by
    rw [hinit]
    exact shows_init
  have hend : Shows t.socketActiveStatus (calls.foldl .step .allInactive) :=
    h.simulates (R := fun s m => Shows s.socketActiveStatus m)
      (fun _ _ _ _ hshows hstep => shows_step hshows hstep) hstart
  refine ⟨getSocketActiveStatus_eq hend, fun sd hsd => ?_, hend.high⟩
  exact if_neg (Nat.not_le.mpr hsd)

/-- Socket 3 is made active, accepts socket 0 and is closed. -/
def someCalls : List Call :=
  [.setSocketActiveStatus 3 0, .getAccecpt 3 0, .socketClose 3]

theorem socketStatus_someCalls :
    ∃ t, Run Step (initial fun _ => 0) someCalls t ∧
      (∀ sd, getSocketActiveStatus t sd =
        (someCalls.foldl .step .allInactive : SocketMap).read sd) ∧
      (∀ sd : Byte, 7 < sd.toNat → getSocketActiveStatus t sd = socketStatusInactive) ∧
      ∀ i, 8 ≤ i → t.socketActiveStatus.getLsbD i = socketStatusInitVal.getLsbD i := by
  have hrun : ∃ t, Run Step (initial fun _ => 0) someCalls t :=
    ⟨_, .cons rfl (.cons ⟨⟨0, fun _ => 0⟩, fun _ => 0, rfl, rfl⟩ (.cons rfl (.nil _)))⟩
  obtain ⟨t, hrun⟩ := hrun
  exact ⟨t, hrun, socketStatus_refines _ t someCalls hrun rfl⟩

end Cc3000Async.SocketStatus
