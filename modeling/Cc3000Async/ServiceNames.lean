import Cc3000Async.ArgumentLengths
import Cc3000Async.ArgumentBlocks

/-!
The guard on service names. The length of a name is kept in a byte before it is compared
with the limit, so a long name is seen by its length modulo 256.
-/
namespace Cc3000Async.ServiceNames

open ByteMemory ByteBlocks Opcodes DriverState HciFrames SocketOperations
open ArgumentLengths ArgumentBlocks

/-- The call refuses the name: nothing is sent, and nothing is waited for. -/
structure Refuses (s : State) (result : BitVec 8 × State) : Prop where
  value : result.1 = -1
  bus : bytesOut result.2.bus = bytesOut s.bus
  desiredState : result.2.desiredState = s.desiredState
  expect : result.2.expect = s.expect

def advertiseArgs (mdnsEnabled : Byte) (serviceName : CString) : List Byte :=
  toBytes 4 mdnsEnabled.toNat ++ toBytes 4 8 ++ toBytes 4 serviceName.strlen ++ serviceName.bytes

/-- The call sends the whole name in one frame. -/
structure Advertises (s : State) (mdnsEnabled : Byte) (serviceName : CString)
    (result : BitVec 8 × State) : Prop where
  value : result.1 = 0
  frame : EmitsCommand s result.2 hciCmndMdnsAdvertise (advertiseArgs mdnsEnabled serviceName)

/-- The result of `cc3000_socket_mdns_advertise` and the state it leaves. -/
def advertise (s : State) (mdnsEnabled : Byte) (serviceName : CString) : BitVec 8 × State :=
  ((cc3000SocketMdnsAdvertise mdnsEnabled serviceName).1,
    (cc3000SocketMdnsAdvertise mdnsEnabled serviceName).2.exec s)

/-- Names longer than the limit are refused, the others advertised. -/
structure GuardsNames (s : State) (mdnsEnabled : Byte) (serviceName : CString) : Prop where
  long : mdnsDeviceServiceMaxLength < serviceName.strlen →
    Refuses s (advertise s mdnsEnabled serviceName)
  short : serviceName.strlen ≤ mdnsDeviceServiceMaxLength →
    Advertises s mdnsEnabled serviceName (advertise s mdnsEnabled serviceName)

theorem toNat_serviceNameLength (serviceName : CString) :
    (serviceNameLength serviceName).toNat = serviceName.strlen % 256 := BitVec.toNat_ofNat _ _

theorem advertise_block (mdnsEnabled : Byte) (serviceName : CString)
    (h : serviceName.strlen < 256) :
    streamed (mdnsCommand mdnsEnabled serviceName (serviceNameLength serviceName)).calls =
      advertiseArgs mdnsEnabled serviceName := by
  have hlen : (serviceNameLength serviceName).toNat = serviceName.strlen := by
    rw [toNat_serviceNameLength, Nat.mod_eq_of_lt h]
  rw [streamed_eq_flatten]
  simp only [mdnsCommand, List.map_append, List.flatten_append, flatten_sendEach,
    bytesFrom_string, List.map_cons, List.map_nil, fieldOf, toNat_widen, hlen, advertiseArgs,
    List.flatten_cons, List.flatten_nil, List.append_assoc, List.append_nil]
  rfl

theorem advertise_of_refused (s : State) (mdnsEnabled : Byte) (serviceName : CString)
    (h : mdnsDeviceServiceMaxLength < serviceName.strlen % 256) :
    advertise s mdnsEnabled serviceName = (-1, s) := by
  rw [← toNat_serviceNameLength] at h
  rw [advertise, cc3000SocketMdnsAdvertise, if_pos h, Prog.exec_nil]

theorem advertise_of_accepted (s : State) (mdnsEnabled : Byte) (serviceName : CString)
    (h : serviceName.strlen % 256 ≤ mdnsDeviceServiceMaxLength) :
    advertise s mdnsEnabled serviceName =
      (0, (mdnsCommand mdnsEnabled serviceName
        (serviceNameLength serviceName)).prog.exec s) := by
  rw [← toNat_serviceNameLength] at h
  rw [advertise, cc3000SocketMdnsAdvertise, if_neg (Nat.not_lt.mpr h)]

/-- A long name whose length wraps to a short one is not refused. -/
theorem not_guardsNames (s : State) (mdnsEnabled : Byte) (serviceName : CString)
    (hlong : mdnsDeviceServiceMaxLength < serviceName.strlen)
    (hwrapped : serviceName.strlen % 256 ≤ mdnsDeviceServiceMaxLength) :
    ¬ GuardsNames s mdnsEnabled serviceName := by
  intro h
  have hvalue := (h.long hlong).value
  rw [advertise_of_accepted s mdnsEnabled serviceName hwrapped] at hvalue
  have hwrong : (0 : BitVec 8) = -1 := hvalue
  exact absurd hwrong (by decide)

/-- For every name and every driver state: the guard does what it is for exactly when the
name is not longer than the limit, or still is when its length is taken modulo 256. -/
theorem guardsNames_iff (s : State) (mdnsEnabled : Byte) (serviceName : CString) :
    GuardsNames s mdnsEnabled serviceName ↔
      serviceName.strlen ≤ 32 ∨ 32 < serviceName.strlen % 256 := by
  have hmax : mdnsDeviceServiceMaxLength = 32 := rfl
  constructor
  · intro h
    by_contra hnot
    obtain ⟨hlong, hwrapped⟩ := not_or.mp hnot
    exact not_guardsNames s mdnsEnabled serviceName (by omega) (by omega) h
  · intro h
    refine ⟨fun hlong => ?_, fun hshort => ?_⟩
    · rw [advertise_of_refused s mdnsEnabled serviceName (by omega)]
      exact ⟨rfl, rfl, rfl, rfl⟩
    · have hsize : (serviceNameLength serviceName).toNat ≤ mdnsDeviceServiceMaxLength := by
        rw [toNat_serviceNameLength]
        omega
      have hblock := advertise_block mdnsEnabled serviceName (by omega)
      have hframe : EmitsCommand s
          ((mdnsCommand mdnsEnabled serviceName (serviceNameLength serviceName)).prog.exec s)
          hciCmndMdnsAdvertise (advertiseArgs mdnsEnabled serviceName) := by
        apply emitsCommand_prog _ s hblock
        rw [← hblock, streamed_length]
        exact mdnsCommand_size mdnsEnabled serviceName hsize
      rw [advertise_of_accepted s mdnsEnabled serviceName (by omega)]
      refine ⟨rfl, ?_⟩
      dsimp only
      exact hframe

def longName : CString where
  bytes := List.replicate 256 0x61
  noNul := by
    intro b hb
    rw [List.eq_of_mem_replicate hb]
    decide

/-- Its length is seen as zero, and it is advertised without a letter. -/
theorem longName_notGuarded : ¬ GuardsNames (initial fun _ => 0) 1 longName := by
  have hlen : longName.strlen = 256 := List.length_replicate
  have hmax : mdnsDeviceServiceMaxLength = 32 := rfl
  exact not_guardsNames _ 1 longName (by omega) (by omega)

end Cc3000Async.ServiceNames
