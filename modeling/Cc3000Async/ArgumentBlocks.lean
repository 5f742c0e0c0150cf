import Cc3000Async.ByteBlocks
import Cc3000Async.SocketOperations

/-!
The argument block that a sequence of streaming calls sends, as fields: each call sends
one, and the words among them are little-endian.
-/
namespace Cc3000Async.ArgumentBlocks

open ByteMemory ByteBlocks DriverState HciFrames SocketOperations

def bytesFrom (m : Mem) (n : ℕ) : List Byte := (List.range n).map m

@[simp] theorem length_bytesFrom (m : Mem) (n : ℕ) : (bytesFrom m n).length = n := by
  rw [bytesFrom, List.length_map, List.length_range]

def fieldOf : SendCall → List Byte
  | .uint8 u => [u]
  | .uint16 u => toBytes 2 u.toNat
  | .uint32 u => toBytes 4 u.toNat
  | .stream u size => bytesFrom u size.toNat

theorem setWidth_shift {w : ℕ} (u : BitVec w) (k : ℕ) :
    (u >>> k).setWidth 8 = BitVec.ofNat 8 (u.toNat / 2 ^ k) := by
  apply BitVec.eq_of_toNat_eq
  rw [BitVec.toNat_setWidth, BitVec.toNat_ushiftRight, Nat.shiftRight_eq_div_pow,
    BitVec.toNat_ofNat]

theorem setWidth_low {w : ℕ} (u : BitVec w) : u.setWidth 8 = BitVec.ofNat 8 u.toNat := by
  apply BitVec.eq_of_toNat_eq
  rw [BitVec.toNat_setWidth, BitVec.toNat_ofNat]

theorem toNat_widen (b : Byte) : (b.setWidth 32).toNat = b.toNat :=
  BitVec.toNat_setWidth_of_le (by omega)

/-- A 16-bit value, byte by byte. -/
theorem toBytes_two (u : BitVec 16) :
    toBytes 2 u.toNat = [u.setWidth 8, (u >>> 8).setWidth 8] := by
  rw [setWidth_low, setWidth_shift]
  rfl

theorem sent_eq_fieldOf (c : SendCall) : c.prog.sent = fieldOf c := by
  cases c with
  | uint8 u => rfl
  | uint16 u =>
    have hmask : SendCall.prog (.uint16 u) =
        [.spiSend (u.setWidth 8), .spiSend ((u >>> 8).setWidth 8)] := by
      simp only [SendCall.prog, cc3000HciSendUint16]
      rw [setWidth_and_mask u (by omega), setWidth_and_mask (u >>> 8) (by omega)]
    rw [hmask, fieldOf, toBytes_two]
    rfl
  | uint32 u =>
    have hmask : SendCall.prog (.uint32 u) =
        [.spiSend (u.setWidth 8), .spiSend ((u >>> 8).setWidth 8),
          .spiSend ((u >>> 16).setWidth 8), .spiSend ((u >>> 24).setWidth 8)] := by
      simp only [SendCall.prog, cc3000HciSendUint32]
      rw [setWidth_and_mask u (by omega), setWidth_and_mask (u >>> 8) (by omega),
        setWidth_and_mask (u >>> 16) (by omega), setWidth_and_mask (u >>> 24) (by omega)]
    have hfield : fieldOf (.uint32 u) =
        [BitVec.ofNat 8 u.toNat, BitVec.ofNat 8 (u.toNat / 2 ^ 8),
          BitVec.ofNat 8 (u.toNat / 2 ^ 16), BitVec.ofNat 8 (u.toNat / 2 ^ 24)] := by
      simp only [fieldOf, toBytes, Nat.div_div_eq_div_mul]
      rfl
    rw [hmask, hfield, setWidth_low, setWidth_shift, setWidth_shift, setWidth_shift]
    rfl
  | stream u size =>
    have hloop : SendCall.prog (.stream u size) = (bytesFrom u size.toNat).map .spiSend := by
      simp [SendCall.prog, cc3000HciSendStream, bytesFrom]
    rw [hloop, Prog.sent_map_spiSend]
    rfl

theorem streamed_eq_flatten (calls : List SendCall) :
    streamed calls = (calls.map fieldOf).flatten := by
  induction calls with
  | nil => rfl
  | cons c calls ih => rw [streamed_cons, ih, sent_eq_fieldOf, List.map_cons, List.flatten_cons]

theorem streamed_words (us : List (BitVec 32)) :
    streamed (us.map .uint32) = ((us.map BitVec.toNat).map (toBytes 4)).flatten := by
  rw [streamed_eq_flatten, List.map_map, List.map_map]
  rfl

/-- A loop over single bytes sends what it walks over. -/
theorem flatten_sendEach (m : Mem) (n : ℕ) :
    ((sendEach m n).map fieldOf).flatten = bytesFrom m n := by
  induction n with
  | zero => rfl
  | succ n ih =>
    have hlast : sendEach m (n + 1) = sendEach m n ++ [.uint8 (m n)] := by
      simp [sendEach, List.range_succ]
    have hbytes : bytesFrom m (n + 1) = bytesFrom m n ++ [m n] := by
      simp [bytesFrom, List.range_succ]
    rw [hlast, List.map_append, List.flatten_append, ih, hbytes]
    rfl

theorem flatten_guarded (m : Mem) (n : ℕ) {c : Prop} [Decidable c] (hc : ¬ c → n = 0) :
    ((if c then sendEach m n else []).map fieldOf).flatten = bytesFrom m n := by
  split_ifs with h
  · exact flatten_sendEach m n
  · rw [hc h]
    rfl

theorem bytesFrom_string (s : CString) : bytesFrom s.byteAt s.strlen = s.bytes := by
  apply List.ext_getElem
  · rw [length_bytesFrom]
    rfl
  · intro i hi hi'
    simp [bytesFrom, CString.byteAt, hi']

/-- The bus has seen one more frame: a command with the given opcode and arguments, as many
as its length byte says. -/
def EmitsCommand (s t : State) (opcode : BitVec 16) (args : List Byte) : Prop :=
  args.length < 256 ∧
    t.bus = s.bus ++ bracket (commandBytes opcode (BitVec.ofNat 8 args.length) args)

theorem emitsCommand_prog (c : Command) (s : State) {args : List Byte}
    (hargs : streamed c.calls = args) (hlen : args.length = c.argsLength.toNat) :
    EmitsCommand s (c.prog.exec s) c.opcode args := by
  have hbyte : BitVec.ofNat 8 args.length = c.argsLength := by
    rw [hlen, BitVec.ofNat_toNat, BitVec.setWidth_eq]
  refine ⟨?_, ?_⟩
  · rw [hlen]
    exact c.argsLength.isLt
  · rw [Command.exec_prog, hargs, hbyte]

end Cc3000Async.ArgumentBlocks
