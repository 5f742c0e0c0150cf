import Cc3000Async.SocketOperations

/-!
What the socket operations read back: the status word of the sockets, the answer to an
accept with the address of the peer, and the answer to a select with the descriptor sets
that the macros build and test. Pointers passed to one call are taken to be distinct.
-/
namespace Cc3000Async.SocketResponses

open ByteMemory TracedAccess DriverState EventHandler

def getSocketActiveStatus (s : State) (sd : Byte) : BitVec 32 :=
  if mIsValidSd sd then
    if s.socketActiveStatus &&& (1#32 <<< sd.toNat) ≠ 0#32 then socketStatusInactive
    else socketStatusActive
  else socketStatusInactive

/-- The macro `M_IS_VALID_SD` on a signed word. -/
def mIsValidSdInt32 (sd : BitVec 32) : Prop := 0 ≤ sd.toInt ∧ sd.toInt ≤ 7

instance (sd : BitVec 32) : Decidable (mIsValidSdInt32 sd) :=
  inferInstanceAs (Decidable (_ ∧ _))

structure SockAddr where
  saFamily : BitVec 16
  saData : Fin 14 → Byte

def SockAddr.putData (a : SockAddr) (index : Fin 14) (byte : Byte) : SockAddr :=
  { a with saData := fun i => if i = index then byte else a.saData i }

def asicAddrLen : BitVec 32 := 8

/-- What `cc3000_get_accecpt` returns and leaves behind its pointers. -/
structure AcceptResult where
  ret : BitVec 32
  addr : SockAddr
  addrlen : BitVec 32
  state : State

/-- The local `evt_ret` starts with any content. A valid result is narrowed to a byte by
the parameter type of `set_socket_active_status`. -/
def cc3000GetAccecpt (sd : Byte) (addr : SockAddr) (evtRet : Mem) (s : State) :
    Traced Access AcceptResult := do
  let evtRet ← cc3000GetReturnStream s evtRet 0 16
  let addr := addr.putData 5 (evtRet 15)
  let addr := addr.putData 4 (evtRet 14)
  let addr := addr.putData 3 (evtRet 13)
  let addr := addr.putData 2 (evtRet 12)
  let addr := addr.putData 1 (evtRet 11)
  let addr := addr.putData 0 (evtRet 10)
  let saFamily := (((evtRet 9).setWidth 32 <<< 8) ||| (evtRet 8).setWidth 32).setWidth 16
  let ret ← cc3000GetReturnInt32 s 4
  pure
    { ret := ret
      addr := { addr with saFamily := saFamily }
      addrlen := asicAddrLen
      state :=
        if mIsValidSdInt32 ret then s.setSocketActiveStatus (ret.setWidth 8) socketStatusActive
        else s.setSocketActiveStatus sd socketStatusInactive }

/-- A `cc3000_fd_set`, shown through the base pointer of its array of masks. -/
structure Cc3000FdSet where
  fdsBits : ℕ → BitVec 32

def cc3000FdSetsize : ℕ := 32

def nfdbits : ℕ := 32

def fdElt (d : ℕ) : ℕ := d / nfdbits

def fdMask (d : ℕ) : BitVec 32 := 1#32 <<< (d % nfdbits)

/-- The loop of the macro runs over the whole array. -/
def cc3000FdZero (set : Cc3000FdSet) : Cc3000FdSet where
  fdsBits := fun i => if i < cc3000FdSetsize / nfdbits then 0 else set.fdsBits i

def cc3000FdSet (d : ℕ) (set : Cc3000FdSet) : Cc3000FdSet where
  fdsBits := fun i =>
    if i = fdElt d then set.fdsBits (fdElt d) ||| fdMask d else set.fdsBits i

def cc3000FdClr (d : ℕ) (set : Cc3000FdSet) : Cc3000FdSet where
  fdsBits := fun i =>
    if i = fdElt d then set.fdsBits (fdElt d) &&& ~~~ fdMask d else set.fdsBits i

def cc3000FdIsset (d : ℕ) (set : Cc3000FdSet) : BitVec 32 :=
  set.fdsBits (fdElt d) &&& fdMask d

/-- The word that `*(unsigned long*)set` reads. -/
def Cc3000FdSet.word (set : Cc3000FdSet) : BitVec 32 := set.fdsBits 0

/-- The set after `memcpy` has put a word there. -/
def Cc3000FdSet.putWord (word : BitVec 32) (set : Cc3000FdSet) : Cc3000FdSet where
  fdsBits := fun i => if i = 0 then word else set.fdsBits i

/-- What `cc3000_get_select` returns and leaves behind its pointers. -/
structure SelectResult where
  ret : BitVec 8
  readsds : Option Cc3000FdSet
  writesds : Option Cc3000FdSet
  exceptsds : Option Cc3000FdSet

def cc3000GetSelect (readsds writesds exceptsds : Option Cc3000FdSet) (s : State) :
    Traced Access SelectResult := do
  let status ← cc3000GetReturnInt32 s 0
  let read ← cc3000GetReturnUint32 s 4
  let write ← cc3000GetReturnUint32 s 8
  let except ← cc3000GetReturnUint32 s 12
  if 0 ≤ status.toInt then
    pure
      { ret := status.setWidth 8
        readsds := readsds.map (Cc3000FdSet.putWord read)
        writesds := writesds.map (Cc3000FdSet.putWord write)
        exceptsds := exceptsds.map (Cc3000FdSet.putWord except) }
  else pure { ret := -1, readsds, writesds, exceptsds }

section Values

variable (s : State)

theorem val_cc3000GetAccecpt (sd : Byte) (addr : SockAddr) (evtRet : Mem) :
    (cc3000GetAccecpt sd addr evtRet s).val =
      { ret := (cc3000GetReturnInt32 s 4).val
        addr :=
          { saFamily :=
              (((s.returnBuffer 9).setWidth 32 <<< 8) |||
                (s.returnBuffer 8).setWidth 32).setWidth 16
            saData := fun i =>
              if i.val < 6 then s.returnBuffer (10 + i.val) else addr.saData i }
        addrlen := asicAddrLen
        state :=
          if mIsValidSdInt32 (cc3000GetReturnInt32 s 4).val then
            s.setSocketActiveStatus ((cc3000GetReturnInt32 s 4).val.setWidth 8)
              socketStatusActive
          else s.setSocketActiveStatus sd socketStatusInactive } := by
  have hsize : (16 : Byte).toNat = 16 := rfl
  have hzero : (0 : Byte).toNat = 0 := rfl
  have hstream : ∀ i, i < 16 → (cc3000GetReturnStream s evtRet 0 16).val i = s.returnBuffer i := by
    intro i hi
    rw [val_cc3000GetReturnStream, hsize, hzero, overlay_lt _ _ hi, Nat.add_zero]
  have hdata : (fun i : Fin 14 =>
      if i = 0 then s.returnBuffer 10 else if i = 1 then s.returnBuffer 11
      else if i = 2 then s.returnBuffer 12 else if i = 3 then s.returnBuffer 13
      else if i = 4 then s.returnBuffer 14 else if i = 5 then s.returnBuffer 15
      else addr.saData i) =
      fun i => if i.val < 6 then s.returnBuffer (10 + i.val) else addr.saData i := by
    funext i
    match i with
    | 0 => rfl
    | 1 => rfl
    | 2 => rfl
    | 3 => rfl
    | 4 => rfl
    | 5 => rfl
    | ⟨n + 6, hn⟩ => simp [Fin.ext_iff]
  simp only [cc3000GetAccecpt, Traced.val_bind, Traced.val_pure, SockAddr.putData,
    hstream 8 (by omega), hstream 9 (by omega), hstream 10 (by omega), hstream 11 (by omega),
    hstream 12 (by omega), hstream 13 (by omega), hstream 14 (by omega), hstream 15 (by omega),
    hdata]

theorem val_cc3000GetSelect (readsds writesds exceptsds : Option Cc3000FdSet) :
    (cc3000GetSelect readsds writesds exceptsds s).val =
      if 0 ≤ (cc3000GetReturnInt32 s 0).val.toInt then
        { ret := (cc3000GetReturnInt32 s 0).val.setWidth 8
          readsds := readsds.map (Cc3000FdSet.putWord (cc3000GetReturnUint32 s 4).val)
          writesds := writesds.map (Cc3000FdSet.putWord (cc3000GetReturnUint32 s 8).val)
          exceptsds := exceptsds.map (Cc3000FdSet.putWord (cc3000GetReturnUint32 s 12).val) }
      else { ret := -1, readsds, writesds, exceptsds } := by
  simp only [cc3000GetSelect, Traced.val_bind, Traced.val_ite, Traced.val_pure]

end Values

end Cc3000Async.SocketResponses
