import Cc3000Async.RequestCounters
import Mathlib.Algebra.Group.Nat.Defs

/-!
Requests made without waiting. One variable holds the expected opcode, so a request made
while another is outstanding takes its place; the answer that was waited for before is no
longer counted, and the two counters stay apart for good.
-/
namespace Cc3000Async.OverlappedRequests

open ByteMemory LabelledRuns Opcodes DriverState EventHandler ReceiveBounds SocketOperations
open Requests
open RequestCounters (Label)

/-- Requests and frames come at any time, whether the driver is ready or not; a frame keeps
inside the buffers. -/
def step (s : State) : Label → Option State
  | .request r => r.prog.map fun p => p.exec s
  | .getRecvBytes => some (cc3000GetRecvBytes s).val.2
  | .frame data => if AccessesFit data then some (handle data s) else none

/-- The call waits for an answer: it does not reject its argument, or finds bytes to
receive. -/
def raises (s : State) : Label → Bool
  | .request r =>
      match r.prog with
      | some (_ :: _) => true
      | _ => false
  | .getRecvBytes => (s.returnBuffer 4).toNat > 0
  | .frame _ => false

def overlap (s : State) (l : Label) : ℕ := if raises s l = true ∧ s.expect ≠ 0 then 1 else 0

def overlaps : State → List Label → ℕ
  | _, [] => 0
  | s, l :: ls =>
      match step s l with
      | none => 0
      | some t => overlap s l + overlaps t ls

/-- Frames that arrive while nothing is expected have a nonzero opcode. -/
def StepNonzero (s : State) (l : Label) (_ : State) : Prop :=
  ∀ data, l = .frame data → s.expect = 0 → frameOpcode data ≠ some 0

/-- The current state is behind by the given number of answers and by the one that is
expected, if any. -/
def Behind (n : ℕ) (s : State) : Prop :=
  s.desiredState = s.currentState + BitVec.ofNat 32 (n + if s.expect = 0 then 0 else 1)

theorem behind_idle {s : State} (hcounters : s.desiredState = s.currentState)
    (hidle : s.expect = 0) : Behind 0 s := by
  unfold Behind
  rw [hcounters, if_pos hidle]
  exact (BitVec.add_zero _).symm

/-- A call that raises the desired state takes the place of what was expected. -/
theorem behind_raise {n : ℕ} {s t : State} (h : Behind n s)
    (hdesired : t.desiredState = s.desiredState + 1) (hcurrent : t.currentState = s.currentState)
    (hexpect : t.expect ≠ 0) : Behind (n + if s.expect ≠ 0 then 1 else 0) t := by
  have hone : (1 : BitVec 32) = BitVec.ofNat 32 1 := rfl
  unfold Behind at h ⊢
  rw [hdesired, hcurrent, h, if_neg hexpect, hone, BitVec.add_assoc, ← BitVec.ofNat_add]
  by_cases hidle : s.expect = 0
  · simp [hidle]
  · simp

theorem overlaps_cons {s t : State} {l : Label} (hstep : Takes step s l t) (ls : List Label) :
    overlaps s (l :: ls) = overlap s l + overlaps t ls := by
  have heq : step s l = some t := hstep
  simp only [overlaps, heq]

theorem behind_step {n : ℕ} {s t : State} {l : Label} (h : Behind n s)
    (hstep : Takes step s l t) (hnonzero : StepNonzero s l t) : Behind (n + overlap s l) t := by
  cases l with
  | request r =>
    obtain ⟨p, hp, rfl⟩ := Option.map_eq_some_iff.mp hstep
    rcases prog_raises r p hp with rfl | ⟨op, hop, hraises⟩
    · have hnone : overlap s (.request r) = 0 := by simp [overlap, raises, hp]
      rw [hnone]
      exact h
    · have hdone := requested_of_raises hraises s
      have hone : overlap s (.request r) = if s.expect ≠ 0 then 1 else 0 := by
        cases p with
        | nil => exact absurd hraises.arms List.not_mem_nil
        | cons a p => simp [overlap, raises, hp]
      rw [hone]
      apply behind_raise h hdone.desiredState hdone.currentState
      rw [hdone.expect]
      exact (armedOpcodes_spec op hop).1
  | getRecvBytes =>
    have ht := Option.some.inj hstep
    rw [val_cc3000GetRecvBytes] at ht
    by_cases hpos : (s.returnBuffer 4).toNat > 0
    · rw [if_pos hpos] at ht
      have hone : overlap s .getRecvBytes = if s.expect ≠ 0 then 1 else 0 := by
        simp [overlap, raises, hpos]
      have hrecv : hciDataRecv ≠ 0 := by decide
      rw [hone, ← ht]
      exact behind_raise h rfl rfl hrecv
    · rw [if_neg hpos] at ht
      have hnone : overlap s .getRecvBytes = 0 := by simp [overlap, raises, hpos]
      rw [hnone, ← ht]
      exact h
  | frame data =>
    obtain ⟨-, ht⟩ := Option.ite_none_right_eq_some.mp hstep
    rw [Option.some.injEq] at ht
    have hnone : overlap s (.frame data) = 0 := by simp [overlap, raises]
    rw [hnone, ← ht]
    unfold Behind at h ⊢
    rw [handle_desiredState, handle_currentState, handle_expect, h]
    by_cases hmet : frameOpcode data = some s.expect
    · have hne : s.expect ≠ 0 := by
        intro hidle
        rw [hidle] at hmet
        exact hnonzero data rfl hidle hmet
      have hone : (1 : BitVec 32) = BitVec.ofNat 32 1 := rfl
      rw [if_pos hmet, if_pos hmet, if_neg hne, if_pos rfl, hone, BitVec.add_assoc,
        ← BitVec.ofNat_add]
      exact congrArg (fun k => s.currentState + BitVec.ofNat 32 k) (by omega)
    · rw [if_neg hmet, if_neg hmet, Nat.add_zero]

theorem behind_run {n : ℕ} {s t : State} {ls : List Label} (hrun : Run (Takes step) s ls t)
    (h : Behind n s) (hnonzero : Along (Takes step) StepNonzero s ls) :
    Behind (n + overlaps s ls) t := by
  induction hrun generalizing n with
  | nil s => exact h
  | @cons s u t l ls hstep _ ih =>
    obtain ⟨hhere, hlater⟩ := (along_cons_takes hstep ls).mp hnonzero
    rw [overlaps_cons hstep, ← Nat.add_assoc]
    exact ih (behind_step h hstep hhere) hlater

/-- A driver that is behind is not ready, unless by as many answers as the counters count. -/
theorem Behind.isReady_iff {n : ℕ} {s : State} (h : Behind n s) (hn : n < 2 ^ 32 - 1) :
    s.cc3000IsReady = 1 ↔ n = 0 ∧ s.expect = 0 := by
  have hsmall : n + (if s.expect = 0 then 0 else 1) < 2 ^ 32 := by
    split_ifs <;> omega
  rw [State.cc3000IsReady_eq_one]
  unfold Behind at h
  rw [h, BitVec.add_right_eq_self]
  have hzero : BitVec.ofNat 32 (n + if s.expect = 0 then 0 else 1) = 0#32 ↔
      n + (if s.expect = 0 then 0 else 1) = 0 := by
    constructor
    · intro heq
      have hmod := congrArg BitVec.toNat heq
      rw [BitVec.toNat_ofNat, Nat.mod_eq_of_lt hsmall] at hmod
      exact hmod
    · intro heq
      rw [heq]
  rw [hzero]
  by_cases hexpect : s.expect = 0 <;> simp [hexpect]

theorem overlaps_le (s : State) (ls : List Label) : overlaps s ls ≤ ls.length := by
  induction ls generalizing s with
  | nil => exact Nat.le_refl 0
  | cons l ls ih =>
    have hone : overlap s l ≤ 1 := by
      unfold overlap
      split <;> omega
    rw [overlaps, List.length_cons]
    split
    · omega
    · next t _ =>
      have hrest := ih t
      omega

theorem overlaps_append_le (s : State) (before after : List Label) :
    overlaps s before ≤ overlaps s (before ++ after) := by
  induction before generalizing s with
  | nil => exact Nat.zero_le _
  | cons l before ih =>
    rw [List.cons_append, overlaps, overlaps]
    cases step s l with
    | none => exact Nat.le_refl 0
    | some t => exact Nat.add_le_add_left (ih t) _

/-- For every run of requests and frames in any order, from an idle driver, in which a driver
that expects nothing hears no opcode of zero: it is ready at the end exactly when nothing is
expected and no call was made while another was outstanding. So after one such call it is
never ready again. The counters are 32 bits wide, hence the bound on the run. -/
theorem ready_iff (s : State) (hcounters : s.desiredState = s.currentState)
    (hidle : s.expect = 0) (ls : List Label) (hlength : ls.length < 2 ^ 32 - 1) (t : State)
    (hrun : Run (Takes step) s ls t) (hnonzero : Along (Takes step) StepNonzero s ls) :
    (t.cc3000IsReady = 1 ↔ overlaps s ls = 0 ∧ t.expect = 0) ∧
    ∀ before after, ls = before ++ after → overlaps s before ≠ 0 → t.cc3000IsReady ≠ 1 := by
  have hle := overlaps_le s ls
  have hbehind := behind_run hrun (behind_idle hcounters hidle) hnonzero
  rw [Nat.zero_add] at hbehind
  have hready := hbehind.isReady_iff (by omega)
  refine ⟨hready, ?_⟩
  intro before after hsplit hoverlap hyes
  have hzero := (hready.mp hyes).1
  have hprefix := overlaps_append_le s before after
  rw [← hsplit] at hprefix
  omega

/-- Two sockets are requested at once, and both requests are answered. -/
def twice : List Label :=
  let answer : Mem := fun i => [0x04, 0x01, 0x10].getD i 0
  [.request (.reqSocket 2 1 6), .request (.reqSocket 2 1 6), .frame answer, .frame answer]

theorem ready_iff_twice :
    ∃ t, Run (Takes step) (initial fun _ => 0) twice t ∧
      overlaps (initial fun _ => 0) twice = 1 ∧ t.cc3000IsReady ≠ 1 := by
  have hrun : Run (Takes step) (initial fun _ => 0) twice _ :=
    Run.cons rfl (Run.cons rfl (Run.cons rfl (Run.cons rfl (Run.nil _))))
  have hoverlap : overlaps (initial fun _ => 0) twice = 1 := by decide
  have hnonzero : Along (Takes step) StepNonzero (initial fun _ => 0) twice := by
    apply along_of_labels (P := fun l => ∀ data, l = .frame data → frameOpcode data ≠ some 0)
    · exact fun _ _ _ hl data hdata _ => hl data hdata
    · intro l hl data hdata
      rw [hdata] at hl
      simp only [twice, List.mem_cons, List.not_mem_nil, or_false, reduceCtorEq, false_or,
        RequestCounters.Label.frame.injEq, or_self] at hl
      rw [hl]
      decide
  refine ⟨_, hrun, hoverlap, fun hyes => ?_⟩
  have hzero := ((ready_iff _ rfl rfl twice (by decide) _ hrun hnonzero).1.mp hyes).1
  exact absurd (hoverlap.symm.trans hzero) (by decide)

end Cc3000Async.OverlappedRequests
