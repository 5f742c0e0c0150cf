import Cc3000Async.BitSets
import Cc3000Async.ReturnedValues
import Cc3000Async.SocketResponses

/-!
Descriptor sets from the macros that build them to a select and back. A set is the bits of
its one mask; every operation of the macros is the operation on sets, the request carries
the masks of three sets, and the answer brings the masks of three others.
-/
namespace Cc3000Async.DescriptorSets

open ByteMemory ByteBlocks BitSets Opcodes TracedAccess DriverState HciFrames EventHandler
open DeviceFrames SocketOperations SocketResponses ArgumentBlocks ReturnedValues

section Macros

inductive FdOp
  | zero
  | set (d : Fin 32)
  | clr (d : Fin 32)
  deriving DecidableEq, Repr

def FdOp.exec : FdOp → Cc3000FdSet → Cc3000FdSet
  | .zero => cc3000FdZero
  | .set d => cc3000FdSet d.val
  | .clr d => cc3000FdClr d.val

def FdOp.denote : FdOp → Set (Fin 32) → Set (Fin 32)
  | .zero, _ => ∅
  | .set d, A => insert d A
  | .clr d, A => A \ {d}

def members (set : Cc3000FdSet) : Set (Fin 32) := bits set.word

theorem fdElt_descriptor (d : Fin 32) : fdElt d.val = 0 := Nat.div_eq_of_lt d.isLt

theorem fdMask_descriptor (d : Fin 32) : fdMask d.val = 1#32 <<< d.val := by
  rw [fdMask, nfdbits, Nat.mod_eq_of_lt d.isLt]

theorem members_exec (op : FdOp) (set : Cc3000FdSet) :
    members (op.exec set) = op.denote (members set) := by
  cases op with
  | zero => exact bits_zero
  | set d =>
    have hword : (cc3000FdSet d.val set).word = set.word ||| 1#32 <<< d.val := by
      rw [Cc3000FdSet.word, cc3000FdSet, fdElt_descriptor, fdMask_descriptor]
      rfl
    rw [members, FdOp.exec, hword, bits_set]
    rfl
  | clr d =>
    have hword : (cc3000FdClr d.val set).word = set.word &&& ~~~(1#32 <<< d.val) := by
      rw [Cc3000FdSet.word, cc3000FdClr, fdElt_descriptor, fdMask_descriptor]
      rfl
    rw [members, FdOp.exec, hword, bits_clear]
    rfl

theorem isset_iff (d : Fin 32) (set : Cc3000FdSet) :
    cc3000FdIsset d.val set ≠ 0#32 ↔ d ∈ members set := by
  rw [cc3000FdIsset, fdElt_descriptor, fdMask_descriptor]
  exact and_mask_ne_zero set.word d

/-- A set as a program builds it: cleared, whatever was there, and then changed. -/
structure Building where
  before : Cc3000FdSet
  ops : List FdOp

def Building.set (b : Building) : Cc3000FdSet :=
  b.ops.foldl (fun set op => op.exec set) (cc3000FdZero b.before)

def Building.denote (b : Building) : Set (Fin 32) :=
  b.ops.foldl (fun A op => op.denote A) ∅

theorem members_foldl (ops : List FdOp) (set : Cc3000FdSet) :
    members (ops.foldl (fun set op => op.exec set) set) =
      ops.foldl (fun A op => op.denote A) (members set) := by
  induction ops generalizing set with
  | nil => rfl
  | cons op ops ih => rw [List.foldl_cons, List.foldl_cons, ih, members_exec]

theorem members_building (b : Building) : members b.set = b.denote := by
  have hempty : members (cc3000FdZero b.before) = ∅ := members_exec .zero b.before
  rw [Building.set, members_foldl, hempty, Building.denote]

end Macros

section Request

def passedWord : Option Building → Option (BitVec 32) := Option.map fun b => b.set.word

def passed : Option Building → Set (Fin 32)
  | none => ∅
  | some b => b.denote

theorem bits_passedWord (b : Option Building) : bits ((passedWord b).getD 0) = passed b := by
  cases b with
  | none => exact bits_zero
  | some b => exact members_building b

/-- The word in the arguments is the mask of exactly these descriptors. -/
def CarriesSet (args : List Byte) (offset : ℕ) (A : Set (Fin 32)) : Prop :=
  ∃ word : BitVec 32, wordAt args offset 4 = some word.toNat ∧ bits word = A

/-- A timeout is sent as one of at least five milliseconds, and as it is when it is that
long. -/
def CarriesTimeout (args : List Byte) (timeout : Timeval) : Prop :=
  ∃ sec usec, wordAt args 36 4 = some sec ∧ wordAt args 40 4 = some usec ∧
    5000 ≤ 1000000 * sec + usec ∧
    (5000 ≤ 1000000 * timeout.tvSec.toInt + timeout.tvUsec.toInt →
      (sec : ℤ) = timeout.tvSec.toInt ∧ (usec : ℤ) = timeout.tvUsec.toInt)

structure CarriesSelect (args : List Byte) (readsds writesds exceptsds : Option Building)
    (timeout : Option Timeval) : Prop where
  isBlocking : wordAt args 20 4 = some (if timeout.isNone then 1 else 0)
  read : CarriesSet args 24 (passed readsds)
  write : CarriesSet args 28 (passed writesds)
  except : CarriesSet args 32 (passed exceptsds)
  timeout : ∀ t, timeout = some t → 0 ≤ t.tvSec.toInt → 0 ≤ t.tvUsec.toInt →
    CarriesTimeout args t

def sentTimeout : Option Timeval → Timeval
  | none => ⟨0, 0⟩
  | some timeout => selectTimeout timeout

def selectWords (nfds : BitVec 32) (readsds writesds exceptsds : Option (BitVec 32))
    (timeout : Option Timeval) : List (BitVec 32) :=
  [nfds, 0x14, 0x14, 0x14, 0x14, if timeout.isNone then 1 else 0, readsds.getD 0,
    writesds.getD 0, exceptsds.getD 0, (sentTimeout timeout).tvSec,
    (sentTimeout timeout).tvUsec]

theorem select_block (nfds : BitVec 32) (readsds writesds exceptsds : Option (BitVec 32))
    (timeout : Option Timeval) :
    streamed (cc3000ReqSelect nfds readsds writesds exceptsds timeout).calls =
      (((selectWords nfds readsds writesds exceptsds timeout).map BitVec.toNat).map
        (toBytes 4)).flatten := by
  rw [← streamed_words]
  cases timeout <;> rfl

/-- A non-negative timeout is kept when it is long enough, and else raised to the
minimum. -/
theorem selectTimeout_cases (t : Timeval) (hsec : 0 ≤ t.tvSec.toInt)
    (husec : 0 ≤ t.tvUsec.toInt) :
    (selectTimeout t = t ∧ 5000 ≤ 1000000 * t.tvSec.toInt + t.tvUsec.toInt) ∨
    (selectTimeout t = ⟨0, 5000⟩ ∧ 1000000 * t.tvSec.toInt + t.tvUsec.toInt < 5000) := by
  have hmin : selectTimeoutMinMicroSeconds.toInt = 5000 := rfl
  have hslt : t.tvUsec.slt selectTimeoutMinMicroSeconds = true ↔ t.tvUsec.toInt < 5000 := by
    rw [BitVec.slt_iff_toInt_lt, hmin]
  have hzero : 0#32 = t.tvSec ↔ t.tvSec.toInt = 0 := by
    rw [eq_comm, ← BitVec.toInt_inj]
    rfl
  unfold selectTimeout
  by_cases hraise : 0#32 = t.tvSec ∧ t.tvUsec.slt selectTimeoutMinMicroSeconds
  · have hraised : { t with tvUsec := selectTimeoutMinMicroSeconds } = (⟨0, 5000⟩ : Timeval) := by
      rw [← hraise.1]
      rfl
    rw [if_pos hraise]
    rw [hzero, hslt] at hraise
    exact Or.inr ⟨hraised, by omega⟩
  · rw [if_neg hraise]
    rw [hzero, hslt] at hraise
    exact Or.inl ⟨rfl, by omega⟩

theorem toNat_of_nonneg {u : BitVec 32} (h : 0 ≤ u.toInt) : (u.toNat : ℤ) = u.toInt := by
  rw [BitVec.toInt_eq_toNat_cond] at h ⊢
  split at h <;> omega

theorem carriesSelect_block (nfds : BitVec 32) (readsds writesds exceptsds : Option Building)
    (timeout : Option Timeval) :
    CarriesSelect
      (streamed (cc3000ReqSelect nfds (passedWord readsds) (passedWord writesds)
        (passedWord exceptsds) timeout).calls) readsds writesds exceptsds timeout := by
  obtain ⟨args, hargs⟩ : ∃ args, args = streamed (cc3000ReqSelect nfds (passedWord readsds)
    (passedWord writesds) (passedWord exceptsds) timeout).calls := ⟨_, rfl⟩
  have hblock := hargs.trans (select_block nfds _ _ _ timeout)
  have hcount : ((selectWords nfds (passedWord readsds) (passedWord writesds)
    (passedWord exceptsds) timeout).map BitVec.toNat).length = 11 := rfl
  have hsec : wordAt args 36 4 = some (sentTimeout timeout).tvSec.toNat :=
    wordAt_of_words hblock 9 (by omega) (BitVec.isLt _)
  have husec : wordAt args 40 4 = some (sentTimeout timeout).tvUsec.toNat :=
    wordAt_of_words hblock 10 (by omega) (BitVec.isLt _)
  rw [← hargs]
  refine ⟨?_, ?_, ?_, ?_, ?_⟩
  · have hflag := wordAt_of_words hblock 5 (by omega) (BitVec.isLt _)
    cases timeout <;> exact hflag
  · exact ⟨_, wordAt_of_words hblock 6 (by omega) (BitVec.isLt _), bits_passedWord readsds⟩
  · exact ⟨_, wordAt_of_words hblock 7 (by omega) (BitVec.isLt _), bits_passedWord writesds⟩
  · exact ⟨_, wordAt_of_words hblock 8 (by omega) (BitVec.isLt _), bits_passedWord exceptsds⟩
  · rintro t rfl hsecPos husecPos
    have hsecNat := toNat_of_nonneg hsecPos
    have husecNat := toNat_of_nonneg husecPos
    obtain ⟨hkept, hlong⟩ | ⟨hraised, hshort⟩ := selectTimeout_cases t hsecPos husecPos
    · rw [sentTimeout, hkept] at hsec husec
      exact ⟨_, _, hsec, husec, by omega, fun _ => ⟨hsecNat, husecNat⟩⟩
    · rw [sentTimeout, hraised] at hsec husec
      exact ⟨0, 5000, hsec, husec, by omega, fun hlong => by omega⟩

end Request

section Answer

/-- The set behind the pointer afterwards has the bits of the word that the answer brings
at the offset; there is one where there was one before. -/
def TakesWord (args : List Byte) (offset : ℕ) (before after : Option Cc3000FdSet) : Prop :=
  (after = none ↔ before = none) ∧
    ∀ set ∈ after, ∀ word : BitVec 32, wordAt args offset 4 = some word.toNat →
      ∀ d : Fin 32, cc3000FdIsset d.val set ≠ 0#32 ↔ word.getLsbD d = true

/-- What `cc3000_get_select` makes of an answer with the given status. -/
structure ReportsSelect (args : List Byte) (status : BitVec 32)
    (readsds writesds exceptsds : Option Cc3000FdSet) (result : SelectResult) : Prop where
  count : 0 ≤ status.toInt → result.ret.toInt = status.toInt
  read : 0 ≤ status.toInt → TakesWord args 4 readsds result.readsds
  write : 0 ≤ status.toInt → TakesWord args 8 writesds result.writesds
  except : 0 ≤ status.toInt → TakesWord args 12 exceptsds result.exceptsds
  error : status.toInt < 0 → result = ⟨-1, readsds, writesds, exceptsds⟩

theorem takesWord_of_holds {s : State} {args : List Byte} (h : Holds s.returnBuffer 0 args)
    (offset : Byte) (before : Option Cc3000FdSet) :
    TakesWord args offset.toNat before
      (before.map (Cc3000FdSet.putWord (cc3000GetReturnUint32 s offset).val)) := by
  refine ⟨Option.map_eq_none_iff, ?_⟩
  intro set hset word hword d
  obtain ⟨old, -, hput⟩ := Option.map_eq_some_iff.mp hset
  have hread : (cc3000GetReturnUint32 s offset).val = word :=
    BitVec.eq_of_toNat_eq (returnedWord32_of_wordAt h hword)
  have hmask : set.word = word := by
    rw [← hput, hread]
    rfl
  rw [isset_iff, members, hmask, mem_bits]

theorem toInt_setWidth_of_small {u : BitVec 32} (hpos : 0 ≤ u.toInt) (hsmall : u.toInt ≤ 96) :
    (u.setWidth 8).toInt = u.toInt := by
  have hnat := toNat_of_nonneg hpos
  rw [BitVec.toInt_eq_toNat_cond, BitVec.toNat_setWidth]
  split <;> omega

theorem reportsSelect_of_holds {s : State} {args : List Byte}
    (h : Holds s.returnBuffer 0 args) {status : BitVec 32}
    (hstatus : wordAt args 0 4 = some status.toNat) (hsmall : status.toInt ≤ 96)
    (readsds writesds exceptsds : Option Cc3000FdSet) :
    ReportsSelect args status readsds writesds exceptsds
      (cc3000GetSelect readsds writesds exceptsds s).val := by
  have hread : (cc3000GetReturnInt32 s 0).val = status :=
    BitVec.eq_of_toNat_eq (returnedWord32_of_wordAt h hstatus)
  rw [val_cc3000GetSelect, hread]
  by_cases hpos : 0 ≤ status.toInt
  · rw [if_pos hpos]
    refine ⟨fun _ => toInt_setWidth_of_small hpos hsmall,
      fun _ => takesWord_of_holds h 4 readsds, fun _ => takesWord_of_holds h 8 writesds,
      fun _ => takesWord_of_holds h 12 exceptsds, fun hneg => ?_⟩
    exact absurd hneg (Int.not_lt.mpr hpos)
  · rw [if_neg hpos]
    exact ⟨fun h => absurd h hpos, fun h => absurd h hpos, fun h => absurd h hpos,
      fun h => absurd h hpos, fun _ => rfl⟩

end Answer

/-- Descriptor sets survive the macros, the request and the answer: the macros build and test
the set that the operations denote, a request for any three built sets or null pointers and
any timeout carries them, and every answer with a status of at most 96 is reported. -/
theorem select_descriptorSets :
    (∀ (b : Building) (d : Fin 32), cc3000FdIsset d.val b.set ≠ 0#32 ↔ d ∈ b.denote) ∧
    (∀ (nfds : BitVec 32) (readsds writesds exceptsds : Option Building)
      (timeout : Option Timeval) (s : State), ∃ args,
      EmitsCommand s ((cc3000ReqSelect nfds (passedWord readsds) (passedWord writesds)
        (passedWord exceptsds) timeout).prog.exec s) hciCmndBsdSelect args ∧
      CarriesSelect args readsds writesds exceptsds timeout) ∧
    ∀ (data : Mem) (args : List Byte) (status : BitVec 32) (s : State)
      (readsds writesds exceptsds : Option Cc3000FdSet),
      Holds data 0 (eventFrame hciEvntSelect args) → args.length < 256 →
      wordAt args 0 4 = some status.toNat → status.toInt ≤ 96 →
      ReportsSelect args status readsds writesds exceptsds
        (cc3000GetSelect readsds writesds exceptsds (handle data s)).val := by
  refine ⟨?_, ?_, ?_⟩
  · intro b d
    rw [isset_iff, members_building]
  · intro nfds readsds writesds exceptsds timeout s
    refine ⟨_, emitsCommand_prog _ s rfl ?_, carriesSelect_block nfds _ _ _ timeout⟩
    rw [select_block]
    rfl
  · intro data args status s readsds writesds exceptsds h hlen hstatus hsmall
    exact reportsSelect_of_holds (holds_returnBuffer h hlen (by decide) s) hstatus hsmall
      readsds writesds exceptsds

/-- An answer with one descriptor ready to read, the last one. -/
def oneReadable : List Byte := [1, 0, 0, 0, 0, 0, 0, 0x80, 0, 0, 0, 0, 0, 0, 0, 0]

theorem reportsSelect_oneReadable :
    ReportsSelect oneReadable 1 (some ⟨fun _ => 0⟩) none none
      (cc3000GetSelect (some ⟨fun _ => 0⟩) none none
        (handle (withPrefix (eventFrame hciEvntSelect oneReadable) fun _ => 0)
          (initial fun _ => 0))).val :=
  select_descriptorSets.2.2 _ oneReadable 1 _ _ _ _ (holds_withPrefix _ _) (by decide)
    (by decide) (by decide)

end Cc3000Async.DescriptorSets
