import Cc3000Async.ByteMemory
import Mathlib.Algebra.BigOperators.Group.List.Basic
import Mathlib.Algebra.Group.Nat.Even
import Mathlib.Tactic.Ring

/-!
Tables of fixed-width records in memory, and sums of the bytes met at a stride.
A loop that walks a table with the table's own width sums one field of its
records; one that walks it with half the width meets two fields in turn.
-/
namespace Cc3000Async.RecordTables

open ByteMemory

/-- The sum of the bytes at `start`, `start + stride`, and so on. -/
def stridedSum (m : Mem) (start stride : ℕ) : ℕ → ℕ
  | 0 => 0
  | n + 1 => stridedSum m start stride n + (m (start + stride * n)).toNat

theorem stridedSum_succ (m : Mem) (start stride n : ℕ) :
    stridedSum m start stride (n + 1) =
      stridedSum m start stride n + (m (start + stride * n)).toNat := rfl

/-- Every other byte of a walk is a walk of twice the stride. -/
theorem stridedSum_parity (m : Mem) (start stride n : ℕ) :
    stridedSum m start stride n =
      stridedSum m start (2 * stride) ((n + 1) / 2) +
        stridedSum m (start + stride) (2 * stride) (n / 2) := by
  induction n with
  | zero => rfl
  | succ n ih =>
    rcases Nat.even_or_odd' n with ⟨k, rfl | rfl⟩
    · have hhalf : (2 * k + 1 + 1) / 2 = k + 1 := by omega
      have hhalf' : (2 * k + 1) / 2 = k := by omega
      have hat : start + stride * (2 * k) = start + 2 * stride * k := by ring
      rw [hhalf'] at ih ⊢
      have hdiv : 2 * k / 2 = k := by omega
      rw [hdiv] at ih
      rw [hhalf, stridedSum_succ, stridedSum_succ, ih, hat]
      omega
    · have hhalf : (2 * k + 1 + 1 + 1) / 2 = k + 1 := by omega
      have hhalf' : (2 * k + 1 + 1) / 2 = k + 1 := by omega
      have hdiv : (2 * k + 1) / 2 = k := by omega
      have hat : start + stride * (2 * k + 1) = start + stride + 2 * stride * k := by ring
      rw [hhalf', hdiv] at ih
      rw [hhalf, hhalf', stridedSum_succ, ih, hat, stridedSum_succ m (start + stride)]
      omega

variable {α : Type} {enc : α → List Byte} {width : ℕ}

/-- Each record of a table stands at its own multiple of the width. -/
theorem holds_record (hwidth : ∀ x, (enc x).length = width) {m : Mem} {start : ℕ} {l : List α}
    (h : Holds m start (l.flatMap enc)) (j : ℕ) (hj : j < l.length) :
    Holds m (start + width * j) (enc l[j]) := by
  induction l generalizing start j with
  | nil => exact absurd hj (Nat.not_lt_zero j)
  | cons x l ih =>
    rw [List.flatMap_cons] at h
    cases j with
    | zero => exact h.append_left
    | succ j =>
      have hrest := h.append_right
      rw [hwidth x] at hrest
      have hrec := ih hrest j (Nat.lt_of_succ_lt_succ hj)
      have hat : start + width + width * j = start + width * (j + 1) := by ring
      rw [hat] at hrec
      exact hrec

/-- A walk of the table's own width sums one byte of each record. -/
theorem stridedSum_field (hwidth : ∀ x, (enc x).length = width) {m : Mem} {start : ℕ}
    {l : List α} (h : Holds m start (l.flatMap enc)) (k : ℕ) (hk : k < width) (n : ℕ)
    (hn : n ≤ l.length) :
    stridedSum m (start + k) width n =
      ((l.take n).map fun x => ((enc x).getD k 0).toNat).sum := by
  induction n with
  | zero => rfl
  | succ n ih =>
    have hrec := holds_record hwidth h n (by omega)
    have hlt : k < (enc l[n]).length := by
      rw [hwidth]
      exact hk
    have hbyte := hrec k hlt
    have hat : start + k + width * n = start + width * n + k := by omega
    rw [stridedSum_succ, ih (by omega), hat, hbyte, List.take_succ_eq_append_getElem (by omega),
      List.map_append, List.sum_append]
    simp [hlt]

/-- Reducing the terms of a sum does not change its remainder. -/
theorem sum_map_mod (f g : α → ℕ) (n : ℕ) (h : ∀ x, f x % n = g x % n) (l : List α) :
    (l.map f).sum % n = (l.map g).sum % n := by
  rw [List.sum_nat_mod, List.sum_nat_mod (l.map g), List.map_map, List.map_map]
  have heq : (fun x => x % n) ∘ f = (fun x => x % n) ∘ g := funext h
  rw [heq]

end Cc3000Async.RecordTables
