import Mathlib.Data.Nat.Notation

/-!
Computations that record the memory accesses they make. A traced value carries
its accesses in program order, so a bound on every index a function touches is a
statement about its log, and the result itself is read off without the log.
Nothing here depends on what the accesses are: the alphabet is a parameter.
-/
namespace Cc3000Async.TracedAccess

/-- A value together with the accesses made while computing it, oldest first. -/
structure Traced (ε : Type) (α : Type) where
  val : α
  log : List ε

variable {ε α β σ : Type}

namespace Traced

instance : Monad (Traced ε) where
  pure a := ⟨a, []⟩
  bind x f := ⟨(f x.val).val, x.log ++ (f x.val).log⟩

def access (e : ε) (a : α) : Traced ε α := ⟨a, [e]⟩

@[simp] theorem val_pure (a : α) : (pure a : Traced ε α).val = a := rfl

@[simp] theorem log_pure (a : α) : (pure a : Traced ε α).log = [] := rfl

@[simp] theorem val_bind (x : Traced ε α) (f : α → Traced ε β) :
    (x >>= f).val = (f x.val).val := rfl

@[simp] theorem log_bind (x : Traced ε α) (f : α → Traced ε β) :
    (x >>= f).log = x.log ++ (f x.val).log := rfl

@[simp] theorem val_access (e : ε) (a : α) : (access e a).val = a := rfl

@[simp] theorem log_access (e : ε) (a : α) : (access e a).log = [e] := rfl

theorem val_ite (c : Prop) [Decidable c] (x y : Traced ε α) :
    (if c then x else y).val = if c then x.val else y.val := apply_ite val c x y

def All (p : ε → Prop) (x : Traced ε α) : Prop := ∀ e ∈ x.log, p e

variable {p : ε → Prop}

@[simp] theorem all_pure (a : α) : All p (pure a : Traced ε α) := by
  simp [All]

@[simp] theorem all_access (e : ε) (a : α) : All p (access e a) ↔ p e := by
  simp [All]

@[simp] theorem all_bind (x : Traced ε α) (f : α → Traced ε β) :
    All p (x >>= f) ↔ All p x ∧ All p (f x.val) := by
  simp [All, or_imp, forall_and]

def relabel {ε' : Type} (f : ε → ε') (x : Traced ε α) : Traced ε' α := ⟨x.val, x.log.map f⟩

@[simp] theorem val_relabel {ε' : Type} (f : ε → ε') (x : Traced ε α) :
    (relabel f x).val = x.val := rfl

/-- Renamed accesses satisfy a predicate when the names they are given do. -/
@[simp] theorem all_relabel {ε' : Type} {q : ε' → Prop} (f : ε → ε') (x : Traced ε α) :
    All q (relabel f x) ↔ All (fun e => q (f e)) x := by
  simp [All, relabel]

/-- The counting loop `for (i = 0; i < n; i++)`: the body runs for each index
below `n` in increasing order, on the state its predecessor left. -/
def countUp (body : ℕ → σ → Traced ε σ) : ℕ → σ → Traced ε σ
  | 0, s => pure s
  | n + 1, s => do
    let s ← countUp body n s
    body n s

@[simp] theorem countUp_zero (body : ℕ → σ → Traced ε σ) (s : σ) :
    countUp body 0 s = pure s := rfl

theorem countUp_succ (body : ℕ → σ → Traced ε σ) (n : ℕ) (s : σ) :
    countUp body (n + 1) s = countUp body n s >>= body n := rfl

/-- The loop rule: a family of states that the body carries from each index to
the next describes the state after any number of iterations. -/
theorem val_countUp (body : ℕ → σ → Traced ε σ) (after : ℕ → σ)
    (hstep : ∀ i, (body i (after i)).val = after (i + 1)) (n : ℕ) :
    (countUp body n (after 0)).val = after n := by
  induction n with
  | zero => rfl
  | succ n ih => rw [countUp_succ, val_bind, ih, hstep]

/-- The accesses of a loop are those of its iterations, each one taken at the
state the iteration starts from. -/
theorem all_countUp (body : ℕ → σ → Traced ε σ) (n : ℕ) (s : σ) :
    All p (countUp body n s) ↔ ∀ i, i < n → All p (body i (countUp body i s).val) := by
  induction n with
  | zero => simp
  | succ n ih =>
    rw [countUp_succ, all_bind, ih]
    constructor
    · rintro ⟨hbefore, hlast⟩ i hi
      rcases Nat.lt_succ_iff_lt_or_eq.mp hi with hlt | heq
      · exact hbefore i hlt
      · rw [heq]
        exact hlast
    · intro h
      exact ⟨fun i hi => h i (by omega), h n (by omega)⟩

end Traced

end Cc3000Async.TracedAccess
