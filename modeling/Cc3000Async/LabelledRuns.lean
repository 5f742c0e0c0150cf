import Mathlib.Data.Nat.Notation

/-!
Finite runs of a labelled step relation. A run is a list of labels together with
the states its steps connect. `Along` says that a property of single steps holds
at every step the labels can take; the invariant rules below pass between such a
step property and the states that the runs reach.
-/
namespace Cc3000Async.LabelledRuns

variable {σ ℓ : Type}

/-- The labels of a run, in order, lead from its first state to its last. -/
inductive Run (step : σ → ℓ → σ → Prop) : σ → List ℓ → σ → Prop
  | nil (s : σ) : Run step s [] s
  | cons {s t u : σ} {l : ℓ} {ls : List ℓ} :
      step s l t → Run step t ls u → Run step s (l :: ls) u

variable {step : σ → ℓ → σ → Prop}

theorem Run.append {s t u : σ} {ls ms : List ℓ} (h : Run step s ls t)
    (h' : Run step t ms u) : Run step s (ls ++ ms) u := by
  induction h with
  | nil => exact h'
  | cons hstep _ ih => exact Run.cons hstep (ih h')

/-- What every step preserves holds wherever a run ends. -/
theorem Run.invariant {I : σ → Prop} (hI : ∀ s l t, I s → step s l t → I t)
    {s t : σ} {ls : List ℓ} (h : Run step s ls t) (hs : I s) : I t := by
  induction h with
  | nil => exact hs
  | cons hstep _ ih => exact ih (hI _ _ _ hs hstep)

/-- A relation that every step keeps, the label updating its other side, is kept by whole
runs. -/
theorem Run.simulates {τ : Type} {f : τ → ℓ → τ} {R : σ → τ → Prop}
    (hsim : ∀ s a l t, R s a → step s l t → R t (f a l)) {s t : σ} {a : τ} {ls : List ℓ}
    (h : Run step s ls t) (hR : R s a) : R t (ls.foldl f a) := by
  induction h generalizing a with
  | nil => exact hR
  | cons hstep _ ih => exact ih (hsim _ _ _ _ hR hstep)

/-- Where each abstract step can be followed, and is followed whatever the other side does,
so is each abstract run. -/
theorem Run.followed {τ : Type} {abstract : τ → ℓ → τ → Prop} {R : σ → τ → Prop}
    (hsim : ∀ s a l b, R s a → abstract a l b →
      (∃ t, step s l t) ∧ ∀ t, step s l t → R t b)
    {a b : τ} {ls : List ℓ} (h : Run abstract a ls b) {s : σ} (hR : R s a) :
    (∃ t, Run step s ls t) ∧ ∀ t, Run step s ls t → R t b := by
  induction h generalizing s with
  | nil a =>
    refine ⟨⟨s, Run.nil s⟩, fun t hrun => ?_⟩
    cases hrun
    exact hR
  | cons hstep hrest ih =>
    obtain ⟨⟨u, hu⟩, hall⟩ := hsim _ _ _ _ hR hstep
    obtain ⟨t, ht⟩ := (ih (hall u hu)).1
    refine ⟨⟨t, Run.cons hu ht⟩, fun t' hrun => ?_⟩
    cases hrun with
    | cons hu' ht' => exact (ih (hall _ hu')).2 t' ht'

/-- The property holds at each step that the labels take from the given state. -/
def Along (step : σ → ℓ → σ → Prop) (R : σ → ℓ → σ → Prop) : σ → List ℓ → Prop
  | _, [] => True
  | s, l :: ls => ∀ t, step s l t → R s l t ∧ Along step R t ls

theorem along_cons (R : σ → ℓ → σ → Prop) (s : σ) (l : ℓ) (ls : List ℓ) :
    Along step R s (l :: ls) ↔ ∀ t, step s l t → R s l t ∧ Along step R t ls := Iff.rfl

/-- What every step that meets a condition preserves holds wherever a run ends that meets
it at each step. -/
theorem Run.invariant_along {I : σ → Prop} {C : σ → ℓ → σ → Prop}
    (hI : ∀ s l t, I s → step s l t → C s l t → I t) {s t : σ} {ls : List ℓ}
    (h : Run step s ls t) (hC : Along step C s ls) (hs : I s) : I t := by
  induction h with
  | nil => exact hs
  | cons hstep _ ih =>
    obtain ⟨hhere, hlater⟩ := hC _ hstep
    exact ih hlater (hI _ _ _ hs hstep hhere)

/-- A property of the states along the steps is one of all states that the runs over
the first labels reach. -/
theorem along_iff_run {P : σ → Prop} {s : σ} (hs : P s) (ls : List ℓ) :
    Along step (fun _ _ t => P t) s ls ↔
      ∀ ms t, ms <+: ls → Run step s ms t → P t := by
  induction ls generalizing s with
  | nil =>
    refine ⟨fun _ ms t hpre hrun => ?_, fun _ => trivial⟩
    rw [List.prefix_nil.mp hpre] at hrun
    cases hrun
    exact hs
  | cons l ls ih =>
    constructor
    · intro h ms t hpre hrun
      cases hrun with
      | nil => exact hs
      | cons hstep hrest =>
        obtain ⟨hlabel, htail⟩ := List.cons_prefix_cons.mp hpre
        subst hlabel
        obtain ⟨hhere, hlater⟩ := h _ hstep
        exact (ih hhere).mp hlater _ _ htail hrest
    · intro h t hstep
      have hhere : P t := h [l] t (List.cons_prefix_cons.mpr ⟨rfl, List.nil_prefix⟩)
        (Run.cons hstep (Run.nil t))
      refine ⟨hhere, (ih hhere).mpr fun ms u hpre hrun => ?_⟩
      exact h (l :: ms) u (List.cons_prefix_cons.mpr ⟨rfl, hpre⟩) (Run.cons hstep hrun)

/-- A property of every step taken where the invariant holds is a property along all
runs from there. -/
theorem along_of_invariant {I : σ → Prop} {R : σ → ℓ → σ → Prop}
    (h : ∀ s l t, I s → step s l t → R s l t ∧ I t) {s : σ} (hs : I s) (ls : List ℓ) :
    Along step R s ls := by
  induction ls generalizing s with
  | nil => trivial
  | cons l ls ih =>
    intro t hstep
    obtain ⟨hhere, hnext⟩ := h s l t hs hstep
    exact ⟨hhere, ih hnext⟩

/-- A property of every step with one of some labels holds along all such labels. -/
theorem along_of_labels {P : ℓ → Prop} {R : σ → ℓ → σ → Prop}
    (h : ∀ s l t, P l → R s l t) {ls : List ℓ} (hls : ∀ l ∈ ls, P l) (s : σ) :
    Along step R s ls := by
  induction ls generalizing s with
  | nil => trivial
  | cons l ls ih =>
    intro t _
    exact ⟨h s l t (hls l List.mem_cons_self), ih (fun l' hl' =>
      hls l' (List.mem_cons_of_mem l hl')) t⟩

/-- The steps of a partial function: each label leads to at most one state. -/
def Takes (f : σ → ℓ → Option σ) (s : σ) (l : ℓ) (t : σ) : Prop := f s l = some t

theorem along_cons_takes {f : σ → ℓ → Option σ} {R : σ → ℓ → σ → Prop} {s t : σ} {l : ℓ}
    (hstep : Takes f s l t) (ls : List ℓ) :
    Along (Takes f) R s (l :: ls) ↔ R s l t ∧ Along (Takes f) R t ls := by
  rw [along_cons]
  constructor
  · intro h
    exact h t hstep
  · intro h u hu
    have heq : u = t := Option.some.inj (hu.symm.trans hstep)
    rw [heq]
    exact h

/-- The state that a partial function comes to along the labels. -/
def after (f : σ → ℓ → Option σ) : σ → List ℓ → Option σ
  | s, [] => some s
  | s, l :: ls =>
      match f s l with
      | none => none
      | some t => after f t ls

theorem run_of_after {f : σ → ℓ → Option σ} {s t : σ} {ls : List ℓ} (h : after f s ls = some t) :
    Run (Takes f) s ls t := by
  induction ls generalizing s with
  | nil =>
    rw [← Option.some.inj h]
    exact Run.nil s
  | cons l ls ih =>
    rw [after] at h
    cases hstep : f s l with
    | none => simp [hstep] at h
    | some u =>
      rw [hstep] at h
      exact Run.cons hstep (ih h)

instance decidableAlong {f : σ → ℓ → Option σ} {R : σ → ℓ → σ → Prop}
    [∀ s l t, Decidable (R s l t)] : (s : σ) → (ls : List ℓ) → Decidable (Along (Takes f) R s ls)
  | _, [] => isTrue trivial
  | s, l :: ls =>
      match hstep : f s l with
      | none => isTrue fun t ht => absurd (hstep.symm.trans ht) (Option.some_ne_none t).symm
      | some t =>
          have := decidableAlong (f := f) (R := R) t ls
          decidable_of_iff (R s l t ∧ Along (Takes f) R t ls) (along_cons_takes hstep ls).symm

/-- A run whose steps keep the first invariant as long as they meet a condition, and the
second from the first step on that does not, ends in the one or the other. -/
theorem Run.two_phases {f : σ → ℓ → Option σ} {C : σ → ℓ → σ → Prop} {I J : σ → Prop}
    (hI : ∀ s l t, I s → Takes f s l t → (C s l t ∧ I t) ∨ (¬ C s l t ∧ J t))
    (hJ : ∀ s l t, J s → Takes f s l t → J t) {s t : σ} {ls : List ℓ}
    (h : Run (Takes f) s ls t) (hs : I s) :
    (Along (Takes f) C s ls ∧ I t) ∨ (¬ Along (Takes f) C s ls ∧ J t) := by
  induction h with
  | nil s => exact Or.inl ⟨trivial, hs⟩
  | cons hstep hrest ih =>
    rw [along_cons_takes hstep]
    rcases hI _ _ _ hs hstep with ⟨hcond, hnext⟩ | ⟨hbreak, hnext⟩
    · rcases ih hnext with ⟨halong, hlast⟩ | ⟨halong, hlast⟩
      · exact Or.inl ⟨⟨hcond, halong⟩, hlast⟩
      · exact Or.inr ⟨fun h => halong h.2, hlast⟩
    · exact Or.inr ⟨fun h => hbreak h.1, hrest.invariant hJ hnext⟩

/-- Steps of the marked labels are paid for by a measure that the other steps leave. -/
theorem Run.countP_le {step : σ → ℓ → σ → Prop} {marked : ℓ → Bool} {work : σ → ℕ}
    (hwork : ∀ s l t, step s l t → (if marked l then 1 else 0) + work t ≤ work s)
    {s t : σ} {ls : List ℓ} (h : Run step s ls t) : ls.countP marked + work t ≤ work s := by
  induction h with
  | nil s => simp
  | cons hstep _ ih =>
    have hhere := hwork _ _ _ hstep
    rw [List.countP_cons]
    omega

/-- What the steps of a run bring about, in order, and what is held back at its end: a step
may hold something back that a later one brings about. -/
def emitted {α γ : Type} (f : σ → ℓ → Option σ) (emit : γ → σ → ℓ → List α × γ) :
    γ → σ → List ℓ → List α × γ
  | w, _, [] => ([], w)
  | w, s, l :: ls =>
      match f s l with
      | none => ([], w)
      | some t =>
          ((emit w s l).1 ++ (emitted f emit (emit w s l).2 t ls).1,
            (emitted f emit (emit w s l).2 t ls).2)

theorem emitted_cons {α γ : Type} {f : σ → ℓ → Option σ} (emit : γ → σ → ℓ → List α × γ) (w : γ)
    {s t : σ} {l : ℓ} (hstep : Takes f s l t) (ls : List ℓ) :
    emitted f emit w s (l :: ls) =
      ((emit w s l).1 ++ (emitted f emit (emit w s l).2 t ls).1,
        (emitted f emit (emit w s l).2 t ls).2) := by
  have heq : f s l = some t := hstep
  simp only [emitted, heq]

/-- Where each step is matched by an abstract run over what it brings about, and brings about
or holds back what its label makes, whole runs are and do: nothing that was made is lost or
brought about twice. -/
theorem Run.emits {τ α γ : Type} {f : σ → ℓ → Option σ} {emit : γ → σ → ℓ → List α × γ}
    {abstract : τ → α → τ → Prop} {C : σ → ℓ → σ → Prop} {I : γ → σ → τ → Prop}
    {made : ℓ → List α} {kept : α → Bool} {held : γ → List α}
    (hsim : ∀ w s l t a, I w s a → Takes f s l t → C s l t →
      (∃ b, Run abstract a (emit w s l).1 b ∧ I (emit w s l).2 t b) ∧
        (emit w s l).1.filter kept ++ held (emit w s l).2 = held w ++ made l)
    {s t : σ} {ls : List ℓ} (h : Run (Takes f) s ls t) (hC : Along (Takes f) C s ls) {w : γ}
    {a : τ} (hI : I w s a) :
    (∃ b, Run abstract a (emitted f emit w s ls).1 b ∧ I (emitted f emit w s ls).2 t b) ∧
      (emitted f emit w s ls).1.filter kept ++ held (emitted f emit w s ls).2 =
        held w ++ ls.flatMap made := by
  induction h generalizing w a with
  | nil s => exact ⟨⟨a, Run.nil a, hI⟩, (List.append_nil _).symm⟩
  | @cons s u t l ls hstep _ ih =>
    obtain ⟨hcond, hlater⟩ := hC _ hstep
    obtain ⟨⟨b, hb, hnext⟩, hhere⟩ := hsim _ _ _ _ _ hI hstep hcond
    obtain ⟨⟨c, hc, hlast⟩, hrest⟩ := ih hlater hnext
    rw [emitted_cons emit w hstep]
    refine ⟨⟨c, hb.append hc, hlast⟩, ?_⟩
    rw [List.filter_append, List.append_assoc, hrest, ← List.append_assoc, hhere,
      List.flatMap_cons, List.append_assoc]

/-- Two step properties that agree wherever the invariant holds, the first of
them restoring the invariant, agree on whole runs. -/
theorem along_iff {I : σ → Prop} {Q C : σ → ℓ → σ → Prop}
    (hiff : ∀ s l t, I s → step s l t → (Q s l t ↔ C s l t))
    (hI : ∀ s l t, I s → step s l t → Q s l t → I t)
    {s : σ} (hs : I s) (ls : List ℓ) : Along step Q s ls ↔ Along step C s ls := by
  induction ls generalizing s with
  | nil => exact Iff.rfl
  | cons l ls ih =>
    constructor
    · intro hQ t hstep
      obtain ⟨hhere, hlater⟩ := hQ t hstep
      exact ⟨(hiff s l t hs hstep).mp hhere, (ih (hI s l t hs hstep hhere)).mp hlater⟩
    · intro hC t hstep
      obtain ⟨hhere, hlater⟩ := hC t hstep
      have hq := (hiff s l t hs hstep).mpr hhere
      exact ⟨hq, (ih (hI s l t hs hstep hq)).mpr hlater⟩

end Cc3000Async.LabelledRuns
