import Cc3000Async.LabelledRuns

/-!
Registers that operations write or leave alone. What a register holds after a sequence of
operations is what the last write in it wrote; a part of the state that every step of a run
writes by its label alone is such a register.
-/
namespace Cc3000Async.LastWrites

open LabelledRuns

variable {ι α : Type}

/-- What a register holds after the operations, given what it held before. -/
def lastWrite (write : ι → Option α) (v : α) (is : List ι) : α :=
  is.foldl (fun v i => (write i).getD v) v

variable {write : ι → Option α}

@[simp] theorem lastWrite_cons (v : α) (i : ι) (is : List ι) :
    lastWrite write v (i :: is) = lastWrite write ((write i).getD v) is := rfl

theorem lastWrite_append (v : α) (is js : List ι) :
    lastWrite write v (is ++ js) = lastWrite write (lastWrite write v is) js :=
  List.foldl_append

theorem lastWrite_of_none {is : List ι} (h : ∀ i ∈ is, write i = none) (v : α) :
    lastWrite write v is = v := by
  induction is with
  | nil => rfl
  | cons i is ih =>
    rw [lastWrite_cons, h i List.mem_cons_self, Option.getD_none]
    exact ih fun j hj => h j (List.mem_cons_of_mem i hj)

/-- What stands before a write does not matter. -/
theorem lastWrite_of_write {i : ι} {w : α} (hi : write i = some w) {after : List ι}
    (hafter : ∀ j ∈ after, write j = none) (v : α) (before : List ι) :
    lastWrite write v (before ++ i :: after) = w := by
  rw [lastWrite_append, lastWrite_cons, hi, Option.getD_some, lastWrite_of_none hafter]

theorem lastWrite_cases (write : ι → Option α) (is : List ι) :
    (∀ i ∈ is, write i = none) ∨
      ∃ before i after w, is = before ++ i :: after ∧ write i = some w ∧
        ∀ j ∈ after, write j = none := by
  induction is with
  | nil => exact Or.inl fun i hi => absurd hi List.not_mem_nil
  | cons i is ih =>
    rcases ih with hnone | ⟨before, j, after, w, hsplit, hj, hafter⟩
    · cases hi : write i with
      | none =>
        left
        intro j hj
        rcases List.mem_cons.mp hj with rfl | hj
        · exact hi
        · exact hnone j hj
      | some w => exact Or.inr ⟨[], i, is, w, rfl, hi, hnone⟩
    · refine Or.inr ⟨i :: before, j, after, w, ?_, hj, hafter⟩
      rw [hsplit, List.cons_append]

/-- A register holds a value that it did not hold before exactly when the last write wrote
that value. -/
theorem lastWrite_eq_iff {v w : α} (hne : v ≠ w) (is : List ι) :
    lastWrite write v is = w ↔
      ∃ before i after, is = before ++ i :: after ∧ write i = some w ∧
        ∀ j ∈ after, write j = none := by
  constructor
  · intro h
    rcases lastWrite_cases write is with hnone | ⟨before, i, after, u, hsplit, hi, hafter⟩
    · rw [lastWrite_of_none hnone] at h
      exact absurd h hne
    · rw [hsplit, lastWrite_of_write hi hafter] at h
      rw [h] at hi
      exact ⟨before, i, after, hsplit, hi, hafter⟩
  · rintro ⟨before, i, after, rfl, hi, hafter⟩
    exact lastWrite_of_write hi hafter v before

/-- A register that can only be written one value holds it as soon as it was written. -/
theorem lastWrite_eq_const_iff {w : α} (hconst : ∀ i u, write i = some u → u = w) {v : α}
    (hne : v ≠ w) (is : List ι) : lastWrite write v is = w ↔ ∃ i ∈ is, write i = some w := by
  rw [lastWrite_eq_iff hne]
  constructor
  · rintro ⟨before, i, after, rfl, hi, -⟩
    exact ⟨i, by simp, hi⟩
  · rintro ⟨i, hmem, hi⟩
    rcases lastWrite_cases write is with hnone | ⟨before, j, after, u, hsplit, hj, hafter⟩
    · rw [hnone i hmem] at hi
      exact absurd hi.symm (Option.some_ne_none w)
    · exact ⟨before, j, after, hsplit, by rw [hj, hconst j u hj], hafter⟩

variable {σ : Type} {step : σ → ι → σ → Prop}

/-- Every step writes the part of the state that is read, or leaves it alone, as its label
says. -/
def Writes (step : σ → ι → σ → Prop) (read : σ → α) (write : ι → Option α) : Prop :=
  ∀ s i t, step s i t → read t = (write i).getD (read s)

theorem read_of_run {read : σ → α} (h : Writes step read write) {s t : σ} {is : List ι}
    (hrun : Run step s is t) : read t = lastWrite write (read s) is :=
  hrun.simulates (R := fun s v => read s = v)
    (fun s v i t hv hstep => by rw [h s i t hstep, hv]) rfl

end Cc3000Async.LastWrites
