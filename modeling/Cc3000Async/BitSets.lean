import Mathlib.Data.Set.Insert

/-!
Sets of small numbers in the bits of a word of any width. Setting a bit inserts its
number, clearing it removes the number, and a mask that meets the word tests for it.
-/
namespace Cc3000Async.BitSets

variable {w : ℕ}

def bits (word : BitVec w) : Set (Fin w) := {i | word.getLsbD i = true}

theorem mem_bits (word : BitVec w) (i : Fin w) : i ∈ bits word ↔ word.getLsbD i = true := Iff.rfl

theorem bits_zero : bits (0#w) = ∅ := by
  ext i
  simp [mem_bits]

theorem getLsbD_mask (i : Fin w) (j : ℕ) :
    (1#w <<< i.val).getLsbD j = decide (j = i.val) := by
  have hi := i.isLt
  rw [BitVec.getLsbD_shiftLeft, BitVec.getLsbD_one]
  by_cases heq : j = i.val
  · subst heq
    simp [hi]
    omega
  · rcases Nat.lt_or_gt_of_ne heq with hlt | hgt
    · simp [heq, hlt]
    · have hne : j - i.val ≠ 0 := by omega
      simp [heq, hne]

theorem getLsbD_set (word : BitVec w) (i : Fin w) (j : ℕ) :
    (word ||| 1#w <<< i.val).getLsbD j = (word.getLsbD j || decide (j = i.val)) := by
  rw [BitVec.getLsbD_or, getLsbD_mask]

theorem getLsbD_clear (word : BitVec w) (i : Fin w) (j : ℕ) :
    (word &&& ~~~(1#w <<< i.val)).getLsbD j = (word.getLsbD j && !decide (j = i.val)) := by
  rw [BitVec.getLsbD_and, BitVec.getLsbD_not, getLsbD_mask]
  by_cases hj : j < w
  · rw [decide_eq_true hj, Bool.true_and]
  · rw [BitVec.getLsbD_of_ge word j (Nat.not_lt.mp hj), Bool.false_and, Bool.false_and]

/-- A bit is cleared and then set to a value: only that bit changes. -/
theorem getLsbD_write (word : BitVec w) (i : Fin w) (value : Bool) (j : ℕ) :
    (word &&& ~~~(1#w <<< i.val) ||| (if value then 1#w else 0#w) <<< i.val).getLsbD j =
      if j = i.val then value else word.getLsbD j := by
  cases value with
  | false =>
    have hzero : (if false then 1#w else 0#w) <<< i.val = 0#w := BitVec.zero_shiftLeft _
    rw [hzero, BitVec.or_zero, getLsbD_clear]
    by_cases heq : j = i.val <;> simp [heq]
  | true =>
    have hone : (if true then 1#w else 0#w) <<< i.val = 1#w <<< i.val := rfl
    rw [hone, getLsbD_set, getLsbD_clear]
    by_cases heq : j = i.val <;> simp [heq]

theorem bits_set (word : BitVec w) (i : Fin w) :
    bits (word ||| 1#w <<< i.val) = insert i (bits word) := by
  ext j
  rw [mem_bits, getLsbD_set, Bool.or_eq_true, decide_eq_true_iff, Set.mem_insert_iff, mem_bits,
    Fin.ext_iff, or_comm]

theorem bits_clear (word : BitVec w) (i : Fin w) :
    bits (word &&& ~~~(1#w <<< i.val)) = bits word \ {i} := by
  ext j
  rw [mem_bits, getLsbD_clear, Bool.and_eq_true, Bool.not_eq_true', decide_eq_false_iff_not,
    Set.mem_sdiff, Set.mem_singleton_iff, mem_bits, Fin.ext_iff]

theorem and_mask_ne_zero (word : BitVec w) (i : Fin w) :
    word &&& 1#w <<< i.val ≠ 0#w ↔ i ∈ bits word := by
  rw [mem_bits]
  constructor
  · intro hne
    by_contra hclear
    apply hne
    apply BitVec.eq_of_getLsbD_eq
    intro j _
    rw [BitVec.getLsbD_and, getLsbD_mask, BitVec.getLsbD_zero]
    by_cases heq : j = i.val
    · rw [heq, Bool.eq_false_iff.mpr hclear, Bool.false_and]
    · rw [decide_eq_false heq, Bool.and_false]
  · intro hset hzero
    have hbit := congrArg (fun word => word.getLsbD i.val) hzero
    simp only [BitVec.getLsbD_and, getLsbD_mask, hset, BitVec.getLsbD_zero, decide_true,
      Bool.and_true] at hbit
    exact absurd hbit (by decide)

end Cc3000Async.BitSets
