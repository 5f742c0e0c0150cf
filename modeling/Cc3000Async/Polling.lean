import Mathlib.Data.Nat.Find

/-!
Loops that poll a state which others change. Between two polls the state is changed by
whatever comes; the loop returns the first state that passes the test, given the fuel to
reach it, and none when no state ever does.
-/
namespace Cc3000Async.Polling

variable {σ : Type}

/-- Poll until the test passes; the changes are numbered from the given one on. -/
def poll (done : σ → Bool) (change : ℕ → σ → σ) : ℕ → ℕ → σ → Option σ
  | 0, _, _ => none
  | fuel + 1, k, s => if done s then some s else poll done change fuel (k + 1) (change k s)

def changed (change : ℕ → σ → σ) : ℕ → ℕ → σ → σ
  | 0, _, s => s
  | n + 1, k, s => changed change n (k + 1) (change k s)

variable {done : σ → Bool} {change : ℕ → σ → σ}

theorem poll_succ (fuel k : ℕ) (s : σ) :
    poll done change (fuel + 1) k s =
      if done s then some s else poll done change fuel (k + 1) (change k s) := rfl

/-- The loop returns at the first state that passes. -/
theorem poll_eq_some_iff {fuel k : ℕ} {s t : σ} :
    poll done change fuel k s = some t ↔
      ∃ n, n < fuel ∧ changed change n k s = t ∧ done t = true ∧
        ∀ m, m < n → done (changed change m k s) = false := by
  induction fuel generalizing k s with
  | zero =>
    constructor
    · intro h
      exact absurd h (Option.some_ne_none t).symm
    · rintro ⟨n, hn, -⟩
      exact absurd hn (Nat.not_lt_zero n)
  | succ fuel ih =>
    rw [poll_succ]
    cases hdone : done s with
    | true =>
      rw [if_pos rfl, Option.some.injEq]
      constructor
      · intro heq
        rw [← heq]
        exact ⟨0, Nat.succ_pos fuel, rfl, hdone, fun m hm => absurd hm (Nat.not_lt_zero m)⟩
      · rintro ⟨n, -, hstate, -, hbefore⟩
        cases n with
        | zero => exact hstate
        | succ n =>
          have hfalse : done s = false := hbefore 0 (Nat.succ_pos n)
          rw [hdone] at hfalse
          exact absurd hfalse.symm Bool.false_ne_true
    | false =>
      rw [if_neg Bool.false_ne_true, ih]
      constructor
      · rintro ⟨n, hn, hstate, hpass, hbefore⟩
        refine ⟨n + 1, Nat.succ_lt_succ hn, hstate, hpass, fun m hm => ?_⟩
        cases m with
        | zero => exact hdone
        | succ m => exact hbefore m (Nat.lt_of_succ_lt_succ hm)
      · rintro ⟨n, hn, hstate, hpass, hbefore⟩
        cases n with
        | zero =>
          have hsame : s = t := hstate
          rw [← hsame, hdone] at hpass
          exact absurd hpass Bool.false_ne_true
        | succ n =>
          exact ⟨n, Nat.lt_of_succ_lt_succ hn, hstate, hpass,
            fun m hm => hbefore (m + 1) (Nat.succ_lt_succ hm)⟩

/-- It returns at all exactly when some state passes. -/
theorem poll_returns_iff {k : ℕ} {s : σ} :
    (∃ fuel t, poll done change fuel k s = some t) ↔
      ∃ n, done (changed change n k s) = true := by
  constructor
  · rintro ⟨fuel, t, hpoll⟩
    obtain ⟨n, -, hstate, hpass, -⟩ := poll_eq_some_iff.mp hpoll
    exact ⟨n, by rw [hstate, hpass]⟩
  · rintro ⟨n, hpass⟩
    have hex : ∃ n, done (changed change n k s) = true := ⟨n, hpass⟩
    have hleast : ∀ m, m < Nat.find hex → done (changed change m k s) = false := fun m hm =>
      Bool.eq_false_iff.mpr (Nat.find_min hex hm)
    exact ⟨Nat.find hex + 1, _,
      poll_eq_some_iff.mpr ⟨_, Nat.lt_succ_self _, rfl, Nat.find_spec hex, hleast⟩⟩

end Cc3000Async.Polling
