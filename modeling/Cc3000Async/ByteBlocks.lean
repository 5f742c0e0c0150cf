import Cc3000Async.ByteMemory
import Mathlib.Data.Nat.Digits.Defs

/-!
Blocks of bytes that are written field by field and read by position. A slice is taken
only where the block reaches; the offset of a field is the sum of the lengths before it,
and reading there gives the field back. Words are little-endian in any number of bytes.
-/
namespace Cc3000Async.ByteBlocks

open ByteMemory

section Slices

variable {α : Type}

/-- The given number of elements from the offset on, none past the end of the block. -/
def slice (block : List α) (offset len : ℕ) : Option (List α) :=
  if offset + len ≤ block.length then some ((block.drop offset).take len) else none

theorem slice_eq_none {block : List α} {offset len : ℕ} (h : block.length < offset + len) :
    slice block offset len = none := if_neg (Nat.not_le.mpr h)

theorem length_of_slice {block piece : List α} {offset len : ℕ}
    (h : slice block offset len = some piece) : piece.length = len := by
  obtain ⟨hle, hpiece⟩ := Option.ite_none_right_eq_some.mp h
  have heq := Option.some.inj hpiece
  rw [← heq, List.length_take, List.length_drop]
  omega

theorem slice_prefix (xs ys : List α) : slice (xs ++ ys) 0 xs.length = some xs := by
  have hle : 0 + xs.length ≤ (xs ++ ys).length := by
    rw [List.length_append]
    omega
  rw [slice, if_pos hle, List.drop_zero, List.take_left]

theorem slice_append_right (xs ys : List α) (offset len : ℕ) :
    slice (xs ++ ys) (xs.length + offset) len = slice ys offset len := by
  have hiff : xs.length + offset + len ≤ (xs ++ ys).length ↔ offset + len ≤ ys.length := by
    rw [List.length_append]
    omega
  simp only [slice, hiff, List.drop_length_add_append]

def offsetOf : List (List α) → ℕ → ℕ
  | [], _ => 0
  | _ :: _, 0 => 0
  | field :: fields, k + 1 => field.length + offsetOf fields k

theorem slice_field (fields : List (List α)) (k : ℕ) (h : k < fields.length) :
    slice fields.flatten (offsetOf fields k) fields[k].length = some fields[k] := by
  induction fields generalizing k with
  | nil => exact absurd h (Nat.not_lt_zero k)
  | cons field fields ih =>
    cases k with
    | zero => exact slice_prefix field fields.flatten
    | succ k =>
      rw [List.flatten_cons, offsetOf, slice_append_right, List.getElem_cons_succ]
      exact ih k (Nat.lt_of_succ_lt_succ h)

theorem slice_of_fields {block : List α} {fields : List (List α)}
    (hblock : block = fields.flatten) (k : ℕ) (h : k < fields.length) {n : ℕ}
    (hlength : fields[k].length = n) :
    slice block (offsetOf fields k) n = some fields[k] := by
  rw [hblock, ← hlength]
  exact slice_field fields k h

end Slices

theorem holds_of_slice {m : Mem} {start offset len : ℕ} {block piece : List Byte}
    (h : Holds m start block) (hslice : slice block offset len = some piece) :
    Holds m (start + offset) piece := by
  obtain ⟨hle, hpiece⟩ := Option.ite_none_right_eq_some.mp hslice
  have heq := Option.some.inj hpiece
  subst heq
  intro i hi
  have hlen : i < len ∧ offset + i < block.length := by
    rw [List.length_take, List.length_drop] at hi
    omega
  rw [Nat.add_assoc, h (offset + i) hlen.2, List.getElem_take, List.getElem_drop]

def littleEndian (bytes : List Byte) : ℕ := Nat.ofDigits 256 (bytes.map BitVec.toNat)

/-- The value in the given number of bytes, the least significant one first. -/
def toBytes : ℕ → ℕ → List Byte
  | 0, _ => []
  | n + 1, v => BitVec.ofNat 8 v :: toBytes n (v / 256)

@[simp] theorem length_toBytes (n v : ℕ) : (toBytes n v).length = n := by
  induction n generalizing v with
  | zero => rfl
  | succ n ih => rw [toBytes, List.length_cons, ih]

theorem littleEndian_append (xs ys : List Byte) :
    littleEndian (xs ++ ys) = littleEndian xs + 256 ^ xs.length * littleEndian ys := by
  rw [littleEndian, List.map_append, Nat.ofDigits_append, List.length_map, littleEndian,
    littleEndian]

theorem littleEndian_cons (b : Byte) (bytes : List Byte) :
    littleEndian (b :: bytes) = b.toNat + 256 * littleEndian bytes := by
  rw [littleEndian, List.map_cons, Nat.ofDigits_cons, littleEndian]

/-- The bytes hold the value as far as they go. -/
theorem littleEndian_toBytes (n v : ℕ) : littleEndian (toBytes n v) = v % 256 ^ n := by
  induction n generalizing v with
  | zero => rw [Nat.pow_zero, Nat.mod_one]; rfl
  | succ n ih =>
    have hsplit : v % (256 * 256 ^ n) = v % 256 + 256 * (v / 256 % 256 ^ n) := Nat.mod_mul
    have hpow : 256 ^ (n + 1) = 256 * 256 ^ n := Nat.pow_succ'
    rw [toBytes, littleEndian_cons, ih, BitVec.toNat_ofNat, hpow, hsplit]

theorem toBytes_littleEndian (bytes : List Byte) :
    toBytes bytes.length (littleEndian bytes) = bytes := by
  induction bytes with
  | nil => rfl
  | cons b bytes ih =>
    have hb := b.isLt
    have hdiv : (b.toNat + 256 * littleEndian bytes) / 256 = littleEndian bytes := by omega
    have hlow : BitVec.ofNat 8 (b.toNat + 256 * littleEndian bytes) = b := by
      apply BitVec.eq_of_toNat_eq
      rw [BitVec.toNat_ofNat]
      omega
    rw [littleEndian_cons, List.length_cons, toBytes, hlow, hdiv, ih]

theorem littleEndian_two (b0 b1 : Byte) : littleEndian [b0, b1] = (word16 b1 b0).toNat := by
  have hnil : littleEndian [] = 0 := rfl
  rw [littleEndian_cons, littleEndian_cons, hnil, toNat_word16]
  omega

theorem littleEndian_four (b0 b1 b2 b3 : Byte) :
    littleEndian [b0, b1, b2, b3] = (word32 b3 b2 b1 b0).toNat := by
  have hnil : littleEndian [] = 0 := rfl
  rw [littleEndian_cons, littleEndian_cons, littleEndian_cons, littleEndian_cons, hnil,
    toNat_word32]
  omega

theorem toBytes_add (m n v : ℕ) :
    toBytes (m + n) v = toBytes m v ++ toBytes n (v / 256 ^ m) := by
  induction m generalizing v with
  | zero => simp [toBytes]
  | succ m ih =>
    have hcomm : m + 1 + n = m + n + 1 := by omega
    rw [hcomm, toBytes, ih, toBytes, List.cons_append, Nat.div_div_eq_div_mul, Nat.pow_succ']

def wordAt (block : List Byte) (offset n : ℕ) : Option ℕ :=
  (slice block offset n).map littleEndian

theorem wordAt_of_fields {block : List Byte} {fields : List (List Byte)}
    (hblock : block = fields.flatten) (k : ℕ) (h : k < fields.length) {n v : ℕ}
    (hfield : fields[k] = toBytes n v) (hv : v < 256 ^ n) :
    wordAt block (offsetOf fields k) n = some v := by
  have hlength : fields[k].length = n := by rw [hfield, length_toBytes]
  rw [wordAt, slice_of_fields hblock k h hlength, hfield, Option.map_some,
    littleEndian_toBytes, Nat.mod_eq_of_lt hv]

/-- In a block of words of one size the offsets are the multiples of that size. -/
theorem offsetOf_words (n : ℕ) (words : List ℕ) (k : ℕ) (h : k < words.length) :
    offsetOf (words.map (toBytes n)) k = n * k := by
  induction words generalizing k with
  | nil => exact absurd h (Nat.not_lt_zero k)
  | cons word words ih =>
    cases k with
    | zero => rfl
    | succ k =>
      rw [List.map_cons, offsetOf, ih k (Nat.lt_of_succ_lt_succ h), length_toBytes,
        Nat.mul_succ, Nat.add_comm]

theorem wordAt_of_words {block : List Byte} {n : ℕ} {words : List ℕ}
    (hblock : block = (words.map (toBytes n)).flatten) (k : ℕ) (h : k < words.length)
    (hv : words[k] < 256 ^ n) : wordAt block (n * k) n = some words[k] := by
  have hk : k < (words.map (toBytes n)).length := by rwa [List.length_map]
  rw [← offsetOf_words n words k h]
  exact wordAt_of_fields hblock k hk (List.getElem_map _) hv

/-- So many words from the front of the block, and what follows them. -/
def takeWords (n : ℕ) : ℕ → List Byte → Option (List ℕ × List Byte)
  | 0, block => some ([], block)
  | k + 1, block =>
      (wordAt block 0 n).bind fun word =>
        (takeWords n k (block.drop n)).map fun front => (word :: front.1, front.2)

/-- Words at the front of a block are taken off it. -/
theorem takeWords_append {n : ℕ} {words : List ℕ} (hwords : ∀ v ∈ words, v < 256 ^ n)
    (tail : List Byte) :
    takeWords n words.length ((words.map (toBytes n)).flatten ++ tail) = some (words, tail) := by
  induction words with
  | nil => rfl
  | cons word words ih =>
    have hword : word < 256 ^ n := hwords word List.mem_cons_self
    have hfront := slice_prefix (toBytes n word) ((words.map (toBytes n)).flatten ++ tail)
    have hrest := ih fun v hv => hwords v (List.mem_cons_of_mem word hv)
    rw [length_toBytes] at hfront
    rw [List.map_cons, List.flatten_cons, List.append_assoc, List.length_cons, takeWords, wordAt,
      hfront, Option.map_some, littleEndian_toBytes, Nat.mod_eq_of_lt hword, Option.bind_some,
      List.drop_left' (length_toBytes n word), hrest, Option.map_some]

end Cc3000Async.ByteBlocks
