import Cc3000Async.DeviceFrames
import Cc3000Async.ReceiveBounds
import Cc3000Async.SocketOperations

/-!
Received data from the device to the caller: the count that announces it, and the frame
that brings it. The count passes through one byte. So does the size of the copy that the
handler makes of the frame, and the getter looks for the data where the copied argument
size puts them; what lies past the copy is what earlier frames left.
-/
namespace Cc3000Async.ReceivedData

open ByteMemory Opcodes TracedAccess DriverState HciFrames EventHandler DeviceFrames
open ReceiveBounds SocketOperations

section Count

/-- The number of bytes in the response to a receive request, the second word of its
arguments; an error is negative. -/
def recvCount (s : State) : ℤ := (readUint32 fun i => s.returnBuffer (4 + i)).toInt

/-- The count is what the caller gets, and the data frame is waited for when there is one. -/
structure ReportsCount (s : State) : Prop where
  result : (cc3000GetRecvBytes s).val.1.toInt = recvCount s
  waits : 0 < recvCount s →
    (cc3000GetRecvBytes s).val.2.desiredState = s.desiredState + 1 ∧
      (cc3000GetRecvBytes s).val.2.expect = hciDataRecv
  rests : recvCount s ≤ 0 → (cc3000GetRecvBytes s).val.2 = s

/-- A byte, widened, is the value of the word that it ends exactly for words of one
byte. -/
theorem toInt_lowByte_iff (u : BitVec 32) :
    ((u.setWidth 8).setWidth 16).toInt = u.toInt ↔ 0 ≤ u.toInt ∧ u.toInt ≤ 255 := by
  have hbyte : ((u.setWidth 8).setWidth 16).toInt = u.toNat % 256 := by
    rw [BitVec.toInt_eq_toNat_cond, BitVec.toNat_setWidth, BitVec.toNat_setWidth]
    split <;> omega
  have hlt := u.isLt
  rw [hbyte, BitVec.toInt_eq_toNat_cond]
  split <;> omega

theorem recvCount_lowByte (s : State) :
    (readUint32 fun i => s.returnBuffer (4 + i)).setWidth 8 = s.returnBuffer 4 :=
  BitVec.setWidth_append_eq_right

/-- From every state, with any count in the return buffer: it is reported, and waited
for, exactly when it is a byte. -/
theorem reportsCount_iff (s : State) :
    ReportsCount s ↔ 0 ≤ recvCount s ∧ recvCount s ≤ 255 := by
  have hcount := toInt_lowByte_iff (readUint32 fun i => s.returnBuffer (4 + i))
  have hval := val_cc3000GetRecvBytes s
  rw [recvCount_lowByte] at hcount
  constructor
  · rintro ⟨hresult, -, -⟩
    rw [hval] at hresult
    exact hcount.mp hresult
  · intro hrange
    have hresult : ((s.returnBuffer 4).setWidth 16).toInt = recvCount s := hcount.mpr hrange
    have hpos : (s.returnBuffer 4).toNat > 0 ↔ 0 < recvCount s := by
      have hlt := (s.returnBuffer 4).isLt
      rw [← hresult, BitVec.toInt_eq_toNat_cond, BitVec.toNat_setWidth]
      split <;> omega
    refine ⟨?_, fun hcount => ?_, fun hnone => ?_⟩
    · rw [hval]
      exact hresult
    · rw [hval, if_pos (hpos.mpr hcount)]
      exact ⟨rfl, rfl⟩
    · rw [hval, if_neg (mt hpos.mp (Int.not_lt.mpr hnone))]

/-- A response that reports an error of -1 in its second word. -/
def recvError : Mem := fun i =>
  [0x04, 0x04, 0x10, 12, 0, 0, 0, 0, 0, 0xff, 0xff, 0xff, 0xff].getD i 0

def failedRecv : State := handle recvError ((cc3000ReqRecv 0 16 0).prog.exec (initial fun _ => 0))

/-- The error is taken for 255 bytes, and a data frame is waited for. -/
theorem recvError_waits :
    failedRecv.cc3000IsReady = 1 ∧ recvCount failedRecv = -1 ∧ ¬ ReportsCount failedRecv := by
  have hbuffer : failedRecv.returnBuffer = copyReturn recvError fun _ => 0 := by
    unfold failedRecv
    rw [handle_returnBuffer, Command.exec_prog]
    rfl
  have hcount : recvCount failedRecv = -1 := by
    rw [recvCount, hbuffer]
    decide
  refine ⟨?_, hcount, fun h => ?_⟩
  · decide
  · have hresult := h.result
    rw [val_cc3000GetRecvBytes, hcount, hbuffer] at hresult
    exact absurd hresult (by decide)

end Count

section Frame

def recvFrame (args payload : List Byte) : List Byte :=
  dataFrame (hciDataRecv.setWidth 8) args payload

/-- The caller's buffer gets the payload and a terminator, from reads inside the return
buffer. -/
structure Delivers (s : State) (buf : Mem) (payload : List Byte) : Prop where
  written : (cc3000GetRecvData s buf (BitVec.ofNat 8 payload.length)).val =
    withPrefix (payload ++ [0]) buf
  inBounds : Traced.All InBounds
    (cc3000GetRecvData s buf (BitVec.ofNat 8 payload.length))

/-- Where the getter looks for the data. -/
def dataStart (buffer : Mem) : ℕ := (buffer 0 + 3).toNat

def Shows (buffer : Mem) (payload : List Byte) : Prop :=
  ∀ i (h : i < payload.length),
    i + dataStart buffer < cc300SpiRxBufferSize ∧ buffer (i + dataStart buffer) = payload[i]

def copySize (args payload : List Byte) : ℕ := (2 * args.length + payload.length) % 256

/-- The return buffer before the frame makes up for what is not copied: everything where
nothing is copied, else the bytes of the payload past the copy. -/
def MakesUp (args payload : List Byte) (buffer : Mem) : Prop :=
  if copySize args payload = 0 then Shows buffer payload
  else ∀ i (h : i < payload.length), copySize args payload ≤ i + (args.length + 3) →
    buffer (i + (args.length + 3)) = payload[i]

theorem all_cc3000GetRecvData (s : State) (buf : Mem) (len : Byte) :
    Traced.All InBounds (cc3000GetRecvData s buf len) ↔
      ∀ i, i < len.toNat → i + dataStart s.returnBuffer < cc300SpiRxBufferSize := by
  have hfirst : InBounds (.returnRead (0 + (0 : Byte).toNat)) := by
    simp [InBounds, cc300SpiRxBufferSize]
  have hsize : (cc3000GetReturnUint8 s 0).val = s.returnBuffer 0 := rfl
  have hread : Traced.All InBounds (cc3000GetReturnUint8 s 0) :=
    (Traced.all_access _ _).mpr hfirst
  simp only [cc3000GetRecvData, cc3000GetReturnStream, returned, Traced.all_bind, hread,
    hsize, Traced.all_countUp, Traced.all_access, Traced.all_pure, InBounds, true_and,
    and_true, dataStart]

theorem delivers_iff (s : State) (buf : Mem) {payload : List Byte}
    (hlen : payload.length < 256) :
    Delivers s buf payload ↔ Shows s.returnBuffer payload := by
  have hsize : (BitVec.ofNat 8 payload.length).toNat = payload.length := by
    rw [BitVec.toNat_ofNat]
    exact Nat.mod_eq_of_lt hlen
  have hval : (cc3000GetRecvData s buf (BitVec.ofNat 8 payload.length)).val = fun i =>
      if i = payload.length then 0
      else overlay (fun i => s.returnBuffer (i + dataStart s.returnBuffer)) payload.length
        buf i := by
    rw [val_cc3000GetRecvData, hsize]
    rfl
  have hall := all_cc3000GetRecvData s buf (BitVec.ofNat 8 payload.length)
  rw [hsize] at hall
  constructor
  · rintro ⟨hwritten, hbounds⟩ i hi
    refine ⟨hall.mp hbounds i hi, ?_⟩
    rw [hval] at hwritten
    have hat := congrFun hwritten i
    rwa [if_neg (Nat.ne_of_lt hi), overlay_lt _ _ hi, withPrefix_concat_lt hi] at hat
  · intro h
    refine ⟨?_, hall.mpr fun i hi => (h i hi).1⟩
    rw [hval]
    funext i
    by_cases hlast : i = payload.length
    · simp [withPrefix, hlast]
    · rw [if_neg hlast]
      by_cases hi : i < payload.length
      · rw [overlay_lt _ _ hi, withPrefix_concat_lt hi]
        exact (h i hi).2
      · have hpast : (payload ++ [0]).length ≤ i := by
          rw [List.length_append, List.length_singleton]
          omega
        rw [overlay_ge _ _ (Nat.not_lt.mp hi), withPrefix_ge hpast]

/-- After the frame the return buffer shows the payload as far as the copy reaches. -/
theorem shows_copied_iff {args payload : List Byte} {data : Mem}
    (h : Holds data 0 (recvFrame args payload))
    (hfits : 5 + args.length + payload.length ≤ cc300SpiRxBufferSize) (buffer : Mem) :
    Shows (copyReturn data buffer) payload ↔ MakesUp args payload buffer := by
  have hsize : cc300SpiRxBufferSize = 250 := rfl
  have hbuffer : copyReturn data buffer =
      overlay (fun i => data (i + 2)) (copySize args payload) buffer :=
    copyReturn_dataFrame h (by decide) buffer
  unfold MakesUp
  by_cases hzero : copySize args payload = 0
  · rw [if_pos hzero, hbuffer, hzero, overlay_zero]
  · rw [if_neg hzero, hbuffer]
    have hargs : data 2 = BitVec.ofNat 8 args.length := (data_header h).2.2.1
    have hpayload := (data_body h).2
    have hstart :
        dataStart (overlay (fun i => data (i + 2)) (copySize args payload) buffer) =
          args.length + 3 := by
      have hthree : (3 : Byte).toNat = 3 := rfl
      rw [dataStart, overlay_lt _ _ (Nat.pos_of_ne_zero hzero), Nat.zero_add, hargs,
        BitVec.toNat_add, BitVec.toNat_ofNat, hthree]
      omega
    unfold Shows
    rw [hstart]
    constructor
    · intro hshows i hi hpast
      have hbyte := (hshows i hi).2
      rwa [overlay_ge _ _ hpast] at hbyte
    · intro hold i hi
      refine ⟨by omega, ?_⟩
      by_cases hcopied : i + (args.length + 3) < copySize args payload
      · have hat : i + (args.length + 3) + 2 = 5 + args.length + i := by omega
        rw [overlay_lt _ _ hcopied, hat]
        exact hpayload i hi
      · rw [overlay_ge _ _ (Nat.not_lt.mp hcopied)]
        exact hold i hi (Nat.not_lt.mp hcopied)

/-- For every frame of received data that fits the receive buffer, over any earlier state:
the getter delivers the payload exactly when what the copy leaves out is there already. -/
theorem delivers_frame_iff (args payload : List Byte) (data : Mem)
    (h : Holds data 0 (recvFrame args payload))
    (hfits : 5 + args.length + payload.length ≤ cc300SpiRxBufferSize) (s : State)
    (buf : Mem) :
    Delivers (handle data s) buf payload ↔ MakesUp args payload s.returnBuffer := by
  have hsize : cc300SpiRxBufferSize = 250 := rfl
  rw [delivers_iff _ _ (by omega), handle_returnBuffer, shows_copied_iff h hfits]

/-- The copy leaves nothing out, whatever was there before, exactly for an empty payload
and for arguments of at least three bytes that still fit the size byte counted twice. -/
theorem makesUp_all_iff (args payload : List Byte)
    (hfits : 5 + args.length + payload.length ≤ cc300SpiRxBufferSize) :
    (∀ buffer, MakesUp args payload buffer) ↔
      payload = [] ∨ 3 ≤ args.length ∧ 2 * args.length + payload.length ≤ 255 := by
  have hsize : cc300SpiRxBufferSize = 250 := rfl
  have hcopy : copySize args payload = (2 * args.length + payload.length) % 256 := rfl
  constructor
  · intro hall
    by_contra hnot
    obtain ⟨hne, hshort⟩ := not_or.mp hnot
    have hpos := List.length_pos_iff.mpr hne
    -- a leftover that differs from the last byte of the payload everywhere
    obtain ⟨k, hk⟩ : ∃ k, k + 1 = payload.length := ⟨payload.length - 1, by omega⟩
    have hlast := hall fun _ => payload[k] + 1
    have hother : payload[k] + 1 ≠ payload[k] := fun heq =>
      absurd (BitVec.add_right_eq_self.mp heq) (by decide)
    unfold MakesUp at hlast
    split_ifs at hlast with hzero
    · exact hother (hlast k (by omega)).2
    · exact hother (hlast k (by omega) (by omega))
  · intro hcovered buffer
    rcases hcovered with hnil | ⟨hargs, hbyte⟩
    · subst hnil
      unfold MakesUp
      split_ifs
      · exact fun i hi => absurd hi (Nat.not_lt_zero i)
      · exact fun i hi _ => absurd hi (Nat.not_lt_zero i)
    · have hzero : copySize args payload ≠ 0 := by omega
      unfold MakesUp
      rw [if_neg hzero]
      intro i hi hpast
      omega

/-- The device's six argument words. -/
def sixWords : List Byte := List.replicate 24 0

theorem delivers_sixWords :
    Delivers (handle (withPrefix (recvFrame sixWords [0x61, 0x62, 0x63]) fun _ => 0)
      (initial fun _ => 0)) (fun _ => 0) [0x61, 0x62, 0x63] := by
  have hfits : 5 + sixWords.length + [0x61, 0x62, 0x63].length ≤ cc300SpiRxBufferSize := by decide
  have hmakes := (makesUp_all_iff sixWords [0x61, 0x62, 0x63] hfits).mpr (Or.inr (by decide))
  exact (delivers_frame_iff sixWords [0x61, 0x62, 0x63] _ (holds_withPrefix _ _) hfits _ _).mpr
    (hmakes _)

/-- With 208 bytes of data their sizes, the first taken twice, make 256. -/
def fullData : List Byte := List.replicate 208 1

/-- Nothing of it is copied. -/
theorem fullData_notDelivered :
    5 + sixWords.length + fullData.length ≤ cc300SpiRxBufferSize ∧
      ¬ Delivers (handle (withPrefix (recvFrame sixWords fullData) fun _ => 0)
        (initial fun _ => 0)) (fun _ => 0) fullData := by
  have hargs : sixWords.length = 24 := List.length_replicate
  have hdata : fullData.length = 208 := List.length_replicate
  have hfits : 5 + sixWords.length + fullData.length ≤ cc300SpiRxBufferSize := by
    rw [hargs, hdata]
    decide
  have hzero : copySize sixWords fullData = 0 := by
    rw [copySize, hargs, hdata]
  refine ⟨hfits, ?_⟩
  rw [delivers_iff _ _ (by omega), handle_returnBuffer,
    shows_copied_iff (holds_withPrefix _ _) hfits, MakesUp, if_pos hzero]
  intro hshows
  have hfirst := (hshows 0 (by omega)).2
  simp only [fullData, List.getElem_replicate] at hfirst
  exact absurd hfirst (by decide)

end Frame

end Cc3000Async.ReceivedData
