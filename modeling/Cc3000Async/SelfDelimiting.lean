import Mathlib.Data.Nat.Notation

/-!
Streams of self-delimiting messages. A code whose decoder takes one encoded message
off the front of any stream, and says what is left, reads every concatenation of
encoded messages back as the list it came from.
-/
namespace Cc3000Async.SelfDelimiting

variable {α β : Type}

/-- On the messages satisfying `p`, the decoder undoes the encoder whatever follows,
and no message is invisible. -/
structure Delimits (encode : α → List β) (decode : List β → Option (α × List β))
    (p : α → Prop) : Prop where
  nonempty : ∀ x, p x → encode x ≠ []
  decodes : ∀ x, p x → ∀ rest, decode (encode x ++ rest) = some (x, rest)

/-- Decode until the stream is empty, at most `fuel` times. -/
def decodeUpTo (decode : List β → Option (α × List β)) : ℕ → List β → Option (List α)
  | _, [] => some []
  | 0, _ :: _ => none
  | fuel + 1, b :: input =>
      match decode (b :: input) with
      | none => none
      | some (x, rest) => (decodeUpTo decode fuel rest).map (x :: ·)

/-- Decode a whole stream; messages are not empty, so its length is enough fuel. -/
def decodeAll (decode : List β → Option (α × List β)) (input : List β) : Option (List α) :=
  decodeUpTo decode input.length input

variable {encode : α → List β} {decode : List β → Option (α × List β)} {p : α → Prop}

theorem decodeUpTo_succ {fuel : ℕ} {input rest : List β} {x : α} (hne : input ≠ [])
    (h : decode input = some (x, rest)) :
    decodeUpTo decode (fuel + 1) input = (decodeUpTo decode fuel rest).map (x :: ·) := by
  cases input with
  | nil => exact absurd rfl hne
  | cons b input => rw [decodeUpTo, h]

theorem decodeUpTo_flatMap (h : Delimits encode decode p) (xs : List α)
    (hxs : ∀ x ∈ xs, p x) (fuel : ℕ) (hfuel : xs.length ≤ fuel) :
    decodeUpTo decode fuel (xs.flatMap encode) = some xs := by
  induction xs generalizing fuel with
  | nil => cases fuel <;> rfl
  | cons x xs ih =>
    have hx := hxs x List.mem_cons_self
    obtain ⟨fuel, rfl⟩ : ∃ k, fuel = k + 1 := ⟨fuel - 1, by simp at hfuel; omega⟩
    have hne : encode x ++ xs.flatMap encode ≠ [] := by
      intro hnil
      exact h.nonempty x hx (List.append_eq_nil_iff.mp hnil).1
    have hrest := ih (fun y hy => hxs y (List.mem_cons_of_mem x hy)) fuel
      (Nat.le_of_succ_le_succ hfuel)
    rw [List.flatMap_cons, decodeUpTo_succ hne (h.decodes x hx _), hrest]
    rfl

theorem length_le_flatMap (h : Delimits encode decode p) (xs : List α)
    (hxs : ∀ x ∈ xs, p x) : xs.length ≤ (xs.flatMap encode).length := by
  induction xs with
  | nil => exact Nat.le_refl 0
  | cons x xs ih =>
    have hpos := List.length_pos_iff.mpr (h.nonempty x (hxs x List.mem_cons_self))
    have hrest := ih (fun y hy => hxs y (List.mem_cons_of_mem x hy))
    rw [List.flatMap_cons, List.length_append, List.length_cons]
    omega

theorem decodeAll_flatMap (h : Delimits encode decode p) (xs : List α)
    (hxs : ∀ x ∈ xs, p x) : decodeAll decode (xs.flatMap encode) = some xs :=
  decodeUpTo_flatMap h xs hxs _ (length_le_flatMap h xs hxs)

end Cc3000Async.SelfDelimiting
