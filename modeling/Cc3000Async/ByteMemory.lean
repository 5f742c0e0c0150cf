import Mathlib.Data.Nat.Notation

/-!
Bytes, two-byte words and byte-addressed memory. A memory is what a pointer
shows: a byte at every offset from its base, with no notion of where the array
it points into ends. Words are assembled and taken apart by shifts, and a block
copied to the base of a memory hides exactly the bytes it covers.
-/
namespace Cc3000Async.ByteMemory

abbrev Byte := BitVec 8
abbrev Mem := ℕ → Byte

/-- Two bytes assembled by shifting the more significant one into place. -/
def word16 (msb lsb : Byte) : BitVec 16 := (msb.setWidth 16 <<< 8) + lsb.setWidth 16

theorem toNat_word16 (msb lsb : Byte) :
    (word16 msb lsb).toNat = 256 * msb.toNat + lsb.toNat := by
  have hm := msb.isLt
  have hl := lsb.isLt
  simp [word16, Nat.shiftLeft_eq]
  omega

@[simp] theorem setWidth_word16 (msb lsb : Byte) : (word16 msb lsb).setWidth 8 = lsb := by
  apply BitVec.eq_of_toNat_eq
  have hl := lsb.isLt
  rw [BitVec.toNat_setWidth, toNat_word16]
  omega

/-- Four bytes assembled from the most significant one on, each step a shift and an
addition. -/
def word32 (b3 b2 b1 b0 : Byte) : BitVec 32 :=
  ((((((b3.setWidth 32 <<< 8) + b2.setWidth 32) <<< 8) + b1.setWidth 32) <<< 8) +
    b0.setWidth 32)

theorem toNat_word32 (b3 b2 b1 b0 : Byte) :
    (word32 b3 b2 b1 b0).toNat =
      b0.toNat + 256 * (b1.toNat + 256 * (b2.toNat + 256 * b3.toNat)) := by
  have h3 := b3.isLt
  have h2 := b2.isLt
  have h1 := b1.isLt
  have h0 := b0.isLt
  simp [word32, Nat.shiftLeft_eq]
  omega

theorem setWidth_and_mask {w : ℕ} (u : BitVec w) (hw : 8 ≤ w) :
    (u &&& BitVec.ofNat w 0xff).setWidth 8 = u.setWidth 8 := by
  apply BitVec.eq_of_toNat_eq
  have hpow : 2 ^ 8 ≤ 2 ^ w := Nat.pow_le_pow_right (by omega) hw
  have hmask : 255 % 2 ^ w = 2 ^ 8 - 1 := Nat.mod_eq_of_lt (by omega)
  simp only [BitVec.toNat_setWidth, BitVec.toNat_and, BitVec.toNat_ofNat, hmask,
    Nat.and_two_pow_sub_one_eq_mod, Nat.mod_mod]

theorem word16_split (w : BitVec 16) :
    word16 ((w >>> 8).setWidth 8) (w.setWidth 8) = w := by
  apply BitVec.eq_of_toNat_eq
  have h := w.isLt
  rw [toNat_word16]
  simp [Nat.shiftRight_eq_div_pow]
  omega

def overlay (bytes : Mem) (n : ℕ) (m : Mem) : Mem := fun i => if i < n then bytes i else m i

theorem overlay_lt (bytes m : Mem) {n i : ℕ} (h : i < n) : overlay bytes n m i = bytes i := by
  simp [overlay, h]

theorem overlay_ge (bytes m : Mem) {n i : ℕ} (h : n ≤ i) : overlay bytes n m i = m i := by
  simp [overlay, Nat.not_lt.mpr h]

@[simp] theorem overlay_zero (bytes m : Mem) : overlay bytes 0 m = m := by
  funext i
  simp [overlay]

/-- A memory that already shows the block keeps it, and no other does. -/
theorem overlay_eq_self_iff (bytes m : Mem) (n : ℕ) :
    overlay bytes n m = m ↔ ∀ i, i < n → bytes i = m i := by
  constructor
  · intro h i hi
    rw [← overlay_lt bytes m hi, h]
  · intro h
    funext i
    by_cases hi : i < n
    · rw [overlay_lt _ _ hi, h i hi]
    · rw [overlay_ge _ _ (Nat.not_lt.mp hi)]

theorem overlay_succ (bytes m : Mem) (n : ℕ) :
    (fun i => if i = n then bytes n else overlay bytes n m i) = overlay bytes (n + 1) m := by
  funext i
  by_cases hi : i = n
  · subst hi
    simp [overlay]
  · by_cases hlt : i < n
    · simp [overlay, hi, hlt, Nat.lt_succ_of_lt hlt]
    · simp [overlay, hi, hlt, show ¬ i < n + 1 by omega]

def Holds (m : Mem) (start : ℕ) (bytes : List Byte) : Prop :=
  ∀ i (h : i < bytes.length), m (start + i) = bytes[i]

theorem Holds.at_zero {m : Mem} {bytes : List Byte} (h : Holds m 0 bytes) (i : ℕ)
    (hi : i < bytes.length) : m i = bytes[i] := by
  have hat := h i hi
  rwa [Nat.zero_add] at hat

theorem Holds.append_left {m : Mem} {start : ℕ} {xs ys : List Byte}
    (h : Holds m start (xs ++ ys)) : Holds m start xs := by
  intro i hi
  have hcat := h i (by simp only [List.length_append]; omega)
  rwa [List.getElem_append_left hi] at hcat

theorem Holds.append_right {m : Mem} {start : ℕ} {xs ys : List Byte}
    (h : Holds m start (xs ++ ys)) : Holds m (start + xs.length) ys := by
  intro i hi
  have hcat := h (xs.length + i) (by simp only [List.length_append]; omega)
  rw [List.getElem_append_right (Nat.le_add_right _ _)] at hcat
  simpa [Nat.add_assoc] using hcat

/-- What a memory holds from some offset on is what copying that block to the base of
another memory makes it hold. -/
theorem holds_overlay {m m' : Mem} {start : ℕ} {bytes : List Byte}
    (h : Holds m start bytes) :
    Holds (overlay (fun i => m (i + start)) bytes.length m') 0 bytes := by
  intro i hi
  rw [Nat.zero_add, overlay_lt _ _ hi, Nat.add_comm]
  exact h i hi

/-- A memory that starts with the given bytes, over arbitrary further content. -/
def withPrefix (bytes : List Byte) (m : Mem) : Mem := fun i => bytes.getD i (m i)

theorem withPrefix_lt {bytes : List Byte} {i : ℕ} (h : i < bytes.length) (m m' : Mem) :
    withPrefix bytes m i = withPrefix bytes m' i := by
  simp [withPrefix, h]

theorem withPrefix_ge {bytes : List Byte} {i : ℕ} (h : bytes.length ≤ i) (m : Mem) :
    withPrefix bytes m i = m i := by
  simp [withPrefix, h]

theorem withPrefix_concat_lt {bytes : List Byte} {i : ℕ} (h : i < bytes.length) (b : Byte)
    (m : Mem) : withPrefix (bytes ++ [b]) m i = bytes[i] := by
  simp [withPrefix, h, Nat.lt_succ_of_lt h]

theorem holds_withPrefix (bytes : List Byte) (m : Mem) : Holds (withPrefix bytes m) 0 bytes := by
  intro i hi
  simp [withPrefix, hi]

end Cc3000Async.ByteMemory
