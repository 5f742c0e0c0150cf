import Cc3000Async.InterruptInterleaving
import Cc3000Async.Polling

/-!
The busy waits for the IRQ pin. They have no timeout, so a call returns only if the pin
shows, at some of the times it is read, the levels that the call waits for, one after the
other; and a call that returns has done what its actions do.
-/
namespace Cc3000Async.IrqHandshake

open ByteMemory Polling Opcodes DriverState HciFrames SocketOperations WlanOperations Requests
open InterruptInterleaving

def waits : Action → Option Bool
  | .waitIrq high => some high
  | _ => none

/-- The loop reads the pin until it shows the level; the reads are numbered, and the last
one of the loop is returned. -/
def readIrqPinUntil (line : ℕ → Bool) (high : Bool) (fuel k : ℕ) : Option ℕ :=
  poll (fun j => line j == high) (fun _ j => j + 1) fuel 0 k

/-- Run a program with each wait as its loop, from the given read on. -/
def runPolled (line : ℕ → Bool) (fuel : ℕ) : Prog → ℕ → State → Option (ℕ × State)
  | [], k, s => some (k, s)
  | a :: p, k, s =>
      match waits a with
      | none => runPolled line fuel p k (a.exec s)
      | some high =>
          (readIrqPinUntil line high fuel k).bind fun j => runPolled line fuel p (j + 1) (a.exec s)

/-- The levels are read in this order, the first one not before the given read. -/
def Shown (line : ℕ → Bool) : List Bool → ℕ → Prop
  | [], _ => True
  | high :: levels, k => ∃ j, k ≤ j ∧ line j = high ∧ Shown line levels (j + 1)

variable {line : ℕ → Bool}

theorem Shown.earlier {levels : List Bool} {k k' : ℕ} (h : Shown line levels k)
    (hle : k' ≤ k) : Shown line levels k' := by
  cases levels with
  | nil => trivial
  | cons high levels =>
    obtain ⟨j, hj, hlevel, hrest⟩ := h
    exact ⟨j, Nat.le_trans hle hj, hlevel, hrest⟩

theorem changed_reads (n i k : ℕ) : changed (fun _ j => j + 1) n i k = k + n := by
  induction n generalizing i k with
  | zero => rfl
  | succ n ih =>
    rw [changed, ih]
    omega

theorem readIrqPinUntil_eq_some_iff {high : Bool} {fuel k j : ℕ} :
    readIrqPinUntil line high fuel k = some j ↔
      k ≤ j ∧ j < k + fuel ∧ line j = high ∧ ∀ i, k ≤ i → i < j → line i ≠ high := by
  unfold readIrqPinUntil
  rw [poll_eq_some_iff]
  simp only [changed_reads, beq_iff_eq, beq_eq_false_iff_ne]
  constructor
  · rintro ⟨n, hn, rfl, hlevel, hbefore⟩
    refine ⟨Nat.le_add_right k n, by omega, hlevel, fun i hki hi => ?_⟩
    have hearlier := hbefore (i - k) (by omega)
    rwa [Nat.add_sub_cancel' hki] at hearlier
  · rintro ⟨hkj, hj, hlevel, hbefore⟩
    refine ⟨j - k, by omega, Nat.add_sub_cancel' hkj, hlevel, fun m hm => ?_⟩
    exact hbefore (k + m) (Nat.le_add_right k m) (by omega)

theorem readIrqPinUntil_mono {high : Bool} {fuel fuel' k j : ℕ} (hle : fuel ≤ fuel')
    (h : readIrqPinUntil line high fuel k = some j) :
    readIrqPinUntil line high fuel' k = some j := by
  rw [readIrqPinUntil_eq_some_iff] at h ⊢
  obtain ⟨hkj, hj, hrest⟩ := h
  exact ⟨hkj, by omega, hrest⟩

theorem runPolled_mono {fuel fuel' : ℕ} (hle : fuel ≤ fuel') {p : Prog} {k : ℕ} {s : State}
    {c : ℕ × State} (h : runPolled line fuel p k s = some c) :
    runPolled line fuel' p k s = some c := by
  induction p generalizing k s with
  | nil => exact h
  | cons a p ih =>
    unfold runPolled at h ⊢
    cases hwaits : waits a with
    | none =>
      simp only [hwaits] at h ⊢
      exact ih h
    | some high =>
      simp only [hwaits, Option.bind_eq_some_iff] at h ⊢
      obtain ⟨j, hj, hrest⟩ := h
      exact ⟨j, readIrqPinUntil_mono hle hj, ih hrest⟩

theorem exec_of_runPolled {fuel : ℕ} {p : Prog} {k j : ℕ} {s t : State}
    (h : runPolled line fuel p k s = some (j, t)) : t = p.exec s := by
  induction p generalizing k s with
  | nil => exact (congrArg Prod.snd (Option.some.inj h)).symm
  | cons a p ih =>
    unfold runPolled at h
    cases hwaits : waits a with
    | none =>
      simp only [hwaits] at h
      exact ih h
    | some high =>
      simp only [hwaits, Option.bind_eq_some_iff] at h
      obtain ⟨i, -, hrest⟩ := h
      exact ih hrest

/-- A program returns exactly when the levels it waits for are shown. -/
theorem runPolled_returns_iff (p : Prog) (k : ℕ) (s : State) :
    (∃ fuel c, runPolled line fuel p k s = some c) ↔ Shown line (p.filterMap waits) k := by
  induction p generalizing k s with
  | nil => exact ⟨fun _ => trivial, fun _ => ⟨0, _, rfl⟩⟩
  | cons a p ih =>
    cases hwaits : waits a with
    | none =>
      rw [List.filterMap_cons_none hwaits, ← ih k (a.exec s)]
      simp only [runPolled, hwaits]
    | some high =>
      rw [List.filterMap_cons_some hwaits]
      simp only [runPolled, hwaits, Option.bind_eq_some_iff]
      constructor
      · rintro ⟨fuel, c, j, hj, hrest⟩
        obtain ⟨hkj, -, hlevel, -⟩ := readIrqPinUntil_eq_some_iff.mp hj
        exact ⟨j, hkj, hlevel, (ih (j + 1) (a.exec s)).mp ⟨fuel, c, hrest⟩⟩
      · rintro ⟨j, hkj, hlevel, hrest⟩
        -- the loop stops at the first such read, which may be an earlier one
        have hex : ∃ n, line (k + n) = high := ⟨j - k, by rw [Nat.add_sub_cancel' hkj, hlevel]⟩
        have hfirst : Nat.find hex ≤ j - k :=
          Nat.find_min' hex (by rw [Nat.add_sub_cancel' hkj, hlevel])
        obtain ⟨fuel, c, hrun⟩ := (ih (k + Nat.find hex + 1) (a.exec s)).mpr
          (hrest.earlier (by omega))
        refine ⟨max fuel (Nat.find hex + 1), c, k + Nat.find hex, ?_,
          runPolled_mono (Nat.le_max_left _ _) hrun⟩
        refine readIrqPinUntil_eq_some_iff.mpr ⟨Nat.le_add_right _ _, by omega, Nat.find_spec hex,
          fun i hki hi => ?_⟩
        have hearlier := Nat.find_min hex (m := i - k) (by omega)
        rwa [Nat.add_sub_cancel' hki] at hearlier

/-- The levels that a call waits for: a start lets the device come up, a stop lets it go
down, and a frame is sent when the device asks for it. -/
def levels : Call → State → List Bool
  | .request (.start _), _ => [true, false]
  | .request .generalReqBufferSize, _ => [false]
  | .request r, _ => r.command.toList.map fun _ => false
  | .send _ _ _ _, s => if s.freeBuffers = 0#8 then [] else [false]
  | .stop, _ => [true]

theorem waits_callsProg (calls : List SendCall) : (callsProg calls).filterMap waits = [] := by
  rw [callsProg_eq, List.filterMap_map]
  exact List.filterMap_eq_nil_iff.mpr fun _ _ => rfl

theorem waits_command (c : Command) (r : Request) :
    (c.prog ++ r.after).filterMap waits = [false] := by
  have hafter : r.after.filterMap waits = [] := by
    cases r <;> rfl
  simp only [Command.prog, List.filterMap_append, waits_callsProg, hafter]
  rfl

theorem levels_of_begin {k : Call} {s t : State} {p : Prog} (hbegin : k.begin s = some (t, p)) :
    p.filterMap waits = levels k s := by
  cases k with
  | request r =>
    simp only [Call.begin, Option.map_eq_some_iff, Prod.mk.injEq] at hbegin
    obtain ⟨p', hp, -, rfl⟩ := hbegin
    cases hc : r.command with
    | some c =>
      rw [prog_of_command r c hc, Option.some.injEq] at hp
      rw [← hp, waits_command]
      cases r with
      | start patchesRequest => simp [Request.command] at hc
      | generalReqBufferSize => simp [Request.command] at hc
      | _ => simp only [levels, hc, Option.toList_some, List.map_cons, List.map_nil]
    | none =>
      obtain ⟨patchesRequest, rfl⟩ | rfl | ⟨mdnsEnabled, serviceName, rfl, -, rfl⟩ |
        ⟨profile, rfl, hknown⟩ := cases_of_command_none r p' hp hc
      · rw [← Option.some.inj hp]
        rfl
      · rw [← Option.some.inj hp]
        rfl
      · simp only [levels, hc]
        rfl
      · have hargs := (profile.arguments_eq_none_iff).mpr hknown
        simp only [Request.prog, cc3000WlanAddProfile, hargs, Option.some.injEq] at hp
        rw [← hp]
        simp only [levels, hc]
        rfl
  | send sd buf len flags =>
    simp only [Call.begin] at hbegin
    split at hbegin
    · next hfree =>
      have hnil : [] = p := congrArg Prod.snd (Option.some.inj hbegin)
      rw [← hnil, levels, if_pos hfree]
      rfl
    · next hfree =>
      have hprog : sendProg sd buf len flags = p :=
        congrArg Prod.snd (Option.some.inj hbegin)
      rw [← hprog, levels, if_neg hfree]
      simp only [sendProg, List.filterMap_append, waits_callsProg]
      rfl
  | stop =>
    have hprog : cc3000Stop = p := congrArg Prod.snd (Option.some.inj hbegin)
    rw [← hprog]
    rfl

/-- For every call and whatever the pin shows: the call returns exactly when the levels it
waits for are read in their order, and then it has done what its actions do. -/
theorem call_completes_iff (k : Call) (s t : State) (p : Prog) (hbegin : k.begin s = some (t, p))
    (line : ℕ → Bool) (i : ℕ) :
    ((∃ fuel c, runPolled line fuel p i t = some c) ↔ Shown line (levels k s) i) ∧
      ∀ fuel j u, runPolled line fuel p i t = some (j, u) → u = p.exec t := by
  rw [← levels_of_begin hbegin]
  exact ⟨runPolled_returns_iff p i t, fun _ _ _ hrun => exec_of_runPolled hrun⟩

/-- The pin is high until the device is up, from the third read on low. -/
theorem call_completes_iff_start :
    ((∃ fuel c, runPolled (fun j => decide (j < 2)) fuel (cc3000Start 0) 0
        (initial fun _ => 0) = some c) ↔
      Shown (fun j => decide (j < 2)) [true, false] 0) ∧
    Shown (fun j => decide (j < 2)) [true, false] 0 :=
  ⟨(call_completes_iff (.request (.start 0)) _ _ _ rfl _ 0).1, 0, by decide, rfl, 2, by decide,
    rfl, trivial⟩

end Cc3000Async.IrqHandshake
