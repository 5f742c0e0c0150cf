import Mathlib.Data.Nat.Notation

/-!
Flat brackets in a stream. A reader collects the items between an opening and a closing
mark; brackets do not nest, no item stands outside of one, and some marks stand outside
only. What has been read so far never changes how the rest is read, so a stream can be
extended by whole brackets wherever none is open.
-/
namespace Cc3000Async.Brackets

/-- The marks of a stream. -/
inductive Mark (α : Type)
  | opening
  | closing
  | item (a : α)
  | outside
  | silent

/-- The brackets that are closed, in order, and the items of the one that is open. -/
structure Reading (α : Type) where
  closed : List (List α)
  current : Option (List α)

variable {α : Type}

/-- Read one mark; none where it may not stand. -/
def Reading.next (r : Reading α) : Mark α → Option (Reading α)
  | .opening =>
      match r.current with
      | none => some { r with current := some [] }
      | some _ => none
  | .closing =>
      match r.current with
      | none => none
      | some items => some { closed := r.closed ++ [items], current := none }
  | .item a =>
      match r.current with
      | none => none
      | some items => some { r with current := some (items ++ [a]) }
  | .outside =>
      match r.current with
      | none => some r
      | some _ => none
  | .silent => some r

def Reading.read (r : Reading α) : List (Mark α) → Option (Reading α)
  | [] => some r
  | m :: ms => (r.next m).bind fun r => r.read ms

def opened (current : Option (List α)) : Reading α := { closed := [], current := current }

def readAll (ms : List (Mark α)) : Option (Reading α) := (opened none).read ms

/-- The same reading after some more closed brackets. -/
def Reading.behind (before : List (List α)) (r : Reading α) : Reading α :=
  { r with closed := before ++ r.closed }

namespace Reading

@[simp] theorem read_nil (r : Reading α) : r.read [] = some r := rfl

theorem read_cons (r : Reading α) (m : Mark α) (ms : List (Mark α)) :
    r.read (m :: ms) = (r.next m).bind fun r => r.read ms := rfl

theorem read_append (r : Reading α) (xs ys : List (Mark α)) :
    r.read (xs ++ ys) = (r.read xs).bind fun r => r.read ys := by
  induction xs generalizing r with
  | nil => rfl
  | cons m xs ih =>
    rw [List.cons_append, read_cons, read_cons]
    cases r.next m with
    | none => rfl
    | some r' => exact ih r'

theorem eq_behind (r : Reading α) : r = (opened r.current).behind r.closed := by
  rw [behind, opened, List.append_nil]

theorem next_behind (before : List (List α)) (r : Reading α) (m : Mark α) :
    (r.behind before).next m = (r.next m).map (behind before) := by
  obtain ⟨closed, current⟩ := r
  cases m <;> cases current <;> simp [next, behind]

theorem read_behind (before : List (List α)) (r : Reading α) (ms : List (Mark α)) :
    (r.behind before).read ms = (r.read ms).map (behind before) := by
  induction ms generalizing r with
  | nil => rfl
  | cons m ms ih =>
    rw [read_cons, read_cons, next_behind]
    cases r.next m with
    | none => rfl
    | some r' => exact ih r'

/-- A stream is read on from a reading as it is from its open bracket alone. -/
theorem read_eq (r : Reading α) (ms : List (Mark α)) :
    r.read ms = ((opened r.current).read ms).map (behind r.closed) := by
  rw [← read_behind, ← eq_behind]

/-- Where a stream is cut, its second part is read from the bracket that the first part
leaves open. -/
theorem read_split {current : Option (List α)} {xs ys : List (Mark α)} {t : Reading α}
    (h : (opened current).read (xs ++ ys) = some t) :
    ∃ u v, (opened current).read xs = some u ∧ (opened u.current).read ys = some v ∧
      t = v.behind u.closed := by
  rw [read_append, Option.bind_eq_some_iff] at h
  obtain ⟨u, hxs, hys⟩ := h
  rw [read_eq, Option.map_eq_some_iff] at hys
  obtain ⟨v, hv, ht⟩ := hys
  exact ⟨u, v, hxs, hv, ht.symm⟩

theorem read_items (closed : List (List α)) (before items : List α) :
    Reading.read { closed := closed, current := some before } (items.map .item) =
      some { closed := closed, current := some (before ++ items) } := by
  induction items generalizing before with
  | nil => simp
  | cons a items ih =>
    have hnext : Reading.next { closed := closed, current := some before } (.item a) =
        some { closed := closed, current := some (before ++ [a]) } := rfl
    rw [List.map_cons, read_cons, hnext, Option.bind_some, ih, List.append_assoc]
    rfl

theorem current_of_next {r t : Reading α} {m : Mark α} (h : r.next m = some t)
    (hclosed : r.current = none) (hm : m ≠ .opening) : t.current = none := by
  obtain ⟨closed, current⟩ := r
  have hnone : current = none := hclosed
  subst hnone
  cases m with
  | opening => exact absurd rfl hm
  | closing => exact absurd h (by simp [next])
  | item a => exact absurd h (by simp [next])
  | outside =>
    have heq := Option.some.inj h
    rw [← heq]
  | silent =>
    have heq := Option.some.inj h
    rw [← heq]

end Reading

def bracketMarks (items : List α) : List (Mark α) := .opening :: items.map .item ++ [.closing]

theorem read_bracketMarks (items : List α) :
    (opened none).read (bracketMarks items) = some { closed := [items], current := none } := by
  rw [bracketMarks, List.cons_append, Reading.read_cons]
  change (Reading.read { closed := [], current := some [] } (items.map .item ++ [.closing])) = _
  rw [Reading.read_append, Reading.read_items]
  rfl

end Cc3000Async.Brackets
