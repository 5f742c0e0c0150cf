import Mathlib.Data.Nat.Notation

/-!
Views of a state under a sequence of updates. An update may leave a view alone, or
change it by what the view itself shows; an update inserted into a sequence is
invisible to the views it leaves alone, and is all that the views see that the rest
of the sequence leaves alone.
-/
namespace Cc3000Async.IndependentUpdates

variable {ι σ ν : Type}

def applyAll (update : ι → σ → σ) (is : List ι) (s : σ) : σ :=
  is.foldl (fun s i => update i s) s

variable {update : ι → σ → σ}

@[simp] theorem applyAll_nil (s : σ) : applyAll update [] s = s := rfl

theorem applyAll_cons (i : ι) (is : List ι) (s : σ) :
    applyAll update (i :: is) s = applyAll update is (update i s) := rfl

theorem applyAll_append (is js : List ι) (s : σ) :
    applyAll update (is ++ js) s = applyAll update js (applyAll update is s) :=
  List.foldl_append

/-- The update leaves the view alone wherever the invariant holds. -/
def Fixes (update : ι → σ → σ) (I : σ → Prop) (view : σ → ν) (i : ι) : Prop :=
  ∀ s, I s → view (update i s) = view s

/-- What the update does to the view is decided by the view. -/
def Respects (update : ι → σ → σ) (view : σ → ν) (i : ι) : Prop :=
  ∀ s t, view s = view t → view (update i s) = view (update i t)

variable {I : σ → Prop} {view : σ → ν}

theorem applyAll_invariant {is : List ι} (hI : ∀ i ∈ is, ∀ s, I s → I (update i s)) {s : σ}
    (hs : I s) : I (applyAll update is s) := by
  induction is generalizing s with
  | nil => exact hs
  | cons i is ih =>
    rw [applyAll_cons]
    apply ih (fun j hj => hI j (List.mem_cons_of_mem i hj))
    exact hI i List.mem_cons_self s hs

theorem view_applyAll_of_fixes {is : List ι} (hI : ∀ i ∈ is, ∀ s, I s → I (update i s))
    (hfix : ∀ i ∈ is, Fixes update I view i) {s : σ} (hs : I s) :
    view (applyAll update is s) = view s := by
  induction is generalizing s with
  | nil => rfl
  | cons i is ih =>
    have hhere := hfix i List.mem_cons_self s hs
    have hnext := hI i List.mem_cons_self s hs
    rw [applyAll_cons, ih (fun j hj => hI j (List.mem_cons_of_mem i hj))
      (fun j hj => hfix j (List.mem_cons_of_mem i hj)) hnext, hhere]

theorem view_applyAll_congr {is : List ι} (hrespect : ∀ i ∈ is, Respects update view i)
    {s t : σ} (hst : view s = view t) :
    view (applyAll update is s) = view (applyAll update is t) := by
  induction is generalizing s t with
  | nil => exact hst
  | cons i is ih =>
    rw [applyAll_cons, applyAll_cons]
    apply ih (fun j hj => hrespect j (List.mem_cons_of_mem i hj))
    exact hrespect i List.mem_cons_self s t hst

/-- An inserted update is invisible to a view that it leaves alone. -/
theorem view_insert_of_fixes {is js : List ι} {r : ι}
    (hI : ∀ i ∈ is, ∀ s, I s → I (update i s)) (hfix : Fixes update I view r)
    (hrespect : ∀ j ∈ js, Respects update view j) {s : σ} (hs : I s) :
    view (applyAll update (is ++ r :: js) s) = view (applyAll update (is ++ js) s) := by
  rw [applyAll_append, applyAll_append, applyAll_cons]
  apply view_applyAll_congr hrespect
  exact hfix _ (applyAll_invariant hI hs)

/-- An inserted update is all that a view sees which the others leave alone. -/
theorem view_insert_of_respects {is js : List ι} {r : ι}
    (hI : ∀ i ∈ is ++ r :: js, ∀ s, I s → I (update i s))
    (hfix : ∀ i ∈ is ++ js, Fixes update I view i) (hrespect : Respects update view r) {s : σ}
    (hs : I s) : view (applyAll update (is ++ r :: js) s) = view (update r s) := by
  have hleft : ∀ i ∈ is, i ∈ is ++ r :: js := fun i hi => List.mem_append_left _ hi
  have hright : ∀ j ∈ js, j ∈ is ++ r :: js := fun j hj =>
    List.mem_append_right is (List.mem_cons_of_mem r hj)
  have hr : r ∈ is ++ r :: js := List.mem_append_right is List.mem_cons_self
  have hbefore := applyAll_invariant (fun i hi => hI i (hleft i hi)) hs
  have hview := view_applyAll_of_fixes (fun i hi => hI i (hleft i hi))
    (fun i hi => hfix i (List.mem_append_left js hi)) hs
  rw [applyAll_append, applyAll_cons, view_applyAll_of_fixes (fun j hj => hI j (hright j hj))
    (fun j hj => hfix j (List.mem_append_right is hj)) (hI r hr _ hbefore)]
  exact hrespect _ _ hview

end Cc3000Async.IndependentUpdates
