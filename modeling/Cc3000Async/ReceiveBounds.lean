import Cc3000Async.SpiReceive

/-!
What reception promises for an announced length, and which indices it touches.
The contract on lengths holds exactly when the high length byte does not matter;
the accesses stay inside the buffers exactly when the lengths and counts read
from the frame fit the copies they drive.
-/
namespace Cc3000Async.ReceiveBounds

open ByteMemory Opcodes TracedAccess DriverState EventHandler SpiReceive

/-- The frame of the given length is consumed, stored and handled once. -/
structure Received (s : State) (length : ℕ) : Prop where
  result : (cc3000SpiReceive s).val.1 = 1
  consumed : (cc3000SpiReceive s).val.2.misoPos = s.misoPos + 2 + length
  stored : ∀ i, i < length → (cc3000SpiReceive s).val.2.spiRxBuffer i = payload s i
  kept : ∀ i, length ≤ i → (cc3000SpiReceive s).val.2.spiRxBuffer i = s.spiRxBuffer i
  handled : (cc3000SpiReceive s).val.2 =
    { handle (cc3000SpiReceive s).val.2.spiRxBuffer s with
      spiRxBuffer := (cc3000SpiReceive s).val.2.spiRxBuffer
      misoPos := (cc3000SpiReceive s).val.2.misoPos
      bus := (cc3000SpiReceive s).val.2.bus }

/-- The frame is refused: only the length bytes are consumed, and nothing but the
bus history records the attempt. -/
structure Refused (s : State) : Prop where
  result : (cc3000SpiReceive s).val.1 = 0
  unchanged : (cc3000SpiReceive s).val.2 =
    { s with misoPos := s.misoPos + 2, bus := (cc3000SpiReceive s).val.2.bus }

def ReceiveContract (s : State) : Prop :=
  (1 ≤ announcedLength s ∧ announcedLength s ≤ cc300SpiRxBufferSize →
    Received s (announcedLength s)) ∧
  (announcedLength s = 0 ∨ cc300SpiRxBufferSize < announcedLength s → Refused s)

theorem received_of_accepts (s : State) (h : Accepts s) :
    Received s (lengthLsb s).toNat := by
  have hval := val_cc3000SpiReceive_of_accepts s h
  refine ⟨?_, ?_, ?_, ?_, ?_⟩
  · rw [hval]
  · rw [hval, handle_eq]
    rfl
  · intro i hi
    rw [hval, handle_eq]
    exact overlay_lt _ _ hi
  · intro i hi
    rw [hval, handle_eq]
    exact overlay_ge _ _ hi
  · rw [hval, handle_eq, handle_eq]
    rfl

theorem refused_of_not_accepts (s : State) (h : ¬ Accepts s) : Refused s := by
  have hval := val_cc3000SpiReceive_of_not_accepts s h
  constructor
  · rw [hval]
  · rw [hval]

/-- The contract holds exactly for the lengths whose class the low byte shows. -/
theorem receiveContract_iff (s : State) :
    ReceiveContract s ↔
      lengthMsb s = 0#8 ∨ lengthLsb s = 0#8 ∨ cc300SpiRxBufferSize < (lengthLsb s).toNat := by
  have hmsb : lengthMsb s = 0#8 ↔ (lengthMsb s).toNat = 0 := by
    rw [← BitVec.toNat_inj]
    rfl
  have hlsb : lengthLsb s = 0#8 ↔ (lengthLsb s).toNat = 0 := by
    rw [← BitVec.toNat_inj]
    rfl
  have hlow := (lengthLsb s).isLt
  have hdef : announcedLength s = 256 * (lengthMsb s).toNat + (lengthLsb s).toNat := rfl
  have hsize : cc300SpiRxBufferSize = 250 := rfl
  constructor
  · rintro ⟨-, hrefuse⟩
    by_contra hnot
    simp only [not_or, hmsb, hlsb, Nat.not_lt] at hnot
    obtain ⟨hhigh, hpos, hle⟩ := hnot
    have haccept : Accepts s := ⟨hle, fun h => hpos (hlsb.mp h)⟩
    have hres := (hrefuse (Or.inr (by omega))).result
    rw [(received_of_accepts s haccept).result] at hres
    exact absurd hres (by decide)
  · intro h
    constructor
    · rintro ⟨hge, hle⟩
      have haccept : Accepts s := by
        refine ⟨by omega, fun hzero => ?_⟩
        rw [hlsb] at hzero
        omega
      have heq : announcedLength s = (lengthLsb s).toNat := by omega
      rw [heq]
      exact received_of_accepts s haccept
    · intro hclass
      apply refused_of_not_accepts
      rintro ⟨hle, hne⟩
      rw [Ne, hlsb] at hne
      rw [hmsb, hlsb] at h
      omega

def oversizeReply : ℕ → Byte := fun i => if i = 0 then 1 else if i = 1 then 5 else 0

theorem receiveContract_oversize : ¬ ReceiveContract (initial oversizeReply) := by
  intro h
  have haccept : Accepts (initial oversizeReply) := by decide
  have hres := (h.2 (Or.inr (by decide))).result
  rw [(received_of_accepts _ haccept).result] at hres
  exact absurd hres (by decide)

def InBounds : Access → Prop
  | .rxRead index => index < cc300SpiRxBufferSize
  | .rxWrite index => index < cc300SpiRxBufferSize
  | .returnRead index => index < cc300SpiRxBufferSize
  | .returnWrite index => index < cc300SpiRxBufferSize

/-- The lengths and counts read from the frame fit the loops they bound. -/
structure AccessesFit (data : Mem) : Prop where
  freeBuffers : IsEvent data hciEvntDataUnsolFreeBuff → (data 5).toNat ≤ 121
  event : data 0 = hciTypeEvent → NormalEvent (word16 (data 2) (data 1)) →
    (data 3).toNat ≤ 245
  data : data 0 = hciTypeData → (data 1).setWidth 16 = hciDataRecv →
    (data 3 + data 2).toNat ≤ 248

instance (data : Mem) : Decidable (AccessesFit data) :=
  decidable_of_iff
    ((IsEvent data hciEvntDataUnsolFreeBuff → (data 5).toNat ≤ 121) ∧
      (data 0 = hciTypeEvent → NormalEvent (word16 (data 2) (data 1)) → (data 3).toNat ≤ 245) ∧
      (data 0 = hciTypeData → (data 1).setWidth 16 = hciDataRecv →
        (data 3 + data 2).toNat ≤ 248))
    ⟨fun h => ⟨h.1, h.2.1, h.2.2⟩, fun h => ⟨h.freeBuffers, h.event, h.data⟩⟩

theorem all_rx {p : Access → Prop} (data : Mem) (index : ℕ) :
    Traced.All p (rx data index) ↔ p (.rxRead index) := Traced.all_access _ _

theorem val_rx (data : Mem) (index : ℕ) : (rx data index).val = data index := rfl

theorem all_receiveByte {p : Access → Prop} (count : ℕ) (s : State) :
    Traced.All p (receiveByte count s) ↔ p (.rxWrite count) := Traced.all_access _ _

theorem all_cc3000SetReturn (data : Mem) (offset size : Byte) (s : State) :
    Traced.All InBounds (cc3000SetReturn data offset size s) ↔
      size.toNat = 0 ∨ offset.toNat + size.toNat ≤ cc300SpiRxBufferSize := by
  unfold cc3000SetReturn
  simp only [Traced.all_countUp, Traced.all_bind, all_rx, storeReturn, Traced.all_access,
    InBounds, cc300SpiRxBufferSize]
  constructor
  · intro h
    by_cases hzero : size.toNat = 0
    · exact Or.inl hzero
    · have hlast := (h (size.toNat - 1) (by omega)).1
      exact Or.inr (by omega)
  · intro h i hi
    constructor <;> omega

theorem all_unsolEvent (hciOpcode : BitVec 16) (data : Mem) (s : State) :
    Traced.All InBounds (unsolEvent hciOpcode data s) ↔
      (hciOpcode = hciEvntDataUnsolFreeBuff → (data 5).toNat ≤ 121) := by
  unfold unsolEvent
  by_cases hfree : hciOpcode = hciEvntDataUnsolFreeBuff
  · simp only [hfree, if_true, Traced.all_bind, all_rx, val_rx, Traced.all_countUp,
      Traced.all_pure, InBounds, cc300SpiRxBufferSize, true_implies, and_true]
    constructor
    · rintro ⟨-, h⟩
      by_contra hnot
      have hlast := h 121 (by omega)
      omega
    · intro h
      exact ⟨by omega, fun i hi => by omega⟩
  · simp [hfree]

theorem all_wlanUnsolEvent (hciOpcode : BitVec 16) (data : Mem) (s : State) :
    Traced.All InBounds (wlanUnsolEvent hciOpcode data s) := by
  unfold wlanUnsolEvent
  split_ifs <;> simp [all_rx, InBounds, cc300SpiRxBufferSize]

theorem all_dispatchEvent (hciOpcode hciArgsLength : BitVec 16) (data : Mem) (s : State) :
    Traced.All InBounds (dispatchEvent hciOpcode hciArgsLength data s) ↔
      (hciOpcode = hciEvntDataUnsolFreeBuff → (data 5).toNat ≤ 121) ∧
      (NormalEvent hciOpcode → (hciArgsLength.setWidth 8).toNat ≤ 245) := by
  obtain ⟨hfree, -⟩ := special_opcodes hciOpcode
  unfold dispatchEvent NormalEvent
  by_cases hu : hciOpcode &&& hciEvntUnsolBase = 0#16
  · have hnot : hciOpcode ≠ hciEvntDataUnsolFreeBuff := fun h => hfree h hu
    by_cases hw : hciOpcode &&& hciEvntWlanUnsolBase = 0#16
    · by_cases hn : hciOpcode ∈ normalEvents
      · simp only [hu, hw, hn, hnot, ne_eq, not_true_eq_false, if_false, if_true,
          all_cc3000SetReturn, hciArgsOffset, cc300SpiRxBufferSize, and_true, true_implies,
          false_implies, true_and]
        have hfive : (5 : Byte).toNat = 5 := rfl
        constructor
        · intro h
          omega
        · intro h
          omega
      · simp [hu, hw, hn, hnot]
    · simp [hu, hw, hnot, all_wlanUnsolEvent]
  · simp [hu, all_unsolEvent]

theorem all_dispatchData (hciOpcode hciArgsLength : BitVec 16) (data : Mem) (s : State) :
    Traced.All InBounds (dispatchData hciOpcode hciArgsLength data s) ↔
      (hciOpcode = hciDataRecv → (hciArgsLength.setWidth 8).toNat ≤ 248) := by
  unfold dispatchData
  by_cases hrecv : hciOpcode = hciDataRecv
  · simp only [hrecv, if_true, all_cc3000SetReturn, cc300SpiRxBufferSize, true_implies]
    have htwo : (2 : Byte).toNat = 2 := rfl
    constructor
    · intro h
      omega
    · intro h
      omega
  · simp [hrecv]

/-- The handler stays inside both buffers exactly when the frame's own lengths
and counts fit. -/
theorem all_cc3000EventHandler (data : Mem) (s : State) :
    Traced.All InBounds (cc3000EventHandler data s) ↔ AccessesFit data := by
  have hhead : InBounds (.rxRead 0) ∧ InBounds (.rxRead 1) ∧ InBounds (.rxRead 2) ∧
      InBounds (.rxRead 3) ∧ InBounds (.rxRead 4) := by
    simp [InBounds, cc300SpiRxBufferSize]
  obtain ⟨h0, h1, h2, h3, h4⟩ := hhead
  have hne : hciTypeData ≠ hciTypeEvent := by decide
  unfold cc3000EventHandler
  simp only [Traced.all_bind, all_rx, val_rx, hciTypeOffset, h0, true_and]
  by_cases hevent : data 0 = hciTypeEvent
  · simp only [hevent, if_true, handleEvent, Traced.all_bind, all_rx, val_rx,
      hciOpcodeMsbOffset, hciOpcodeLsbOffset, hciArgsLengthMsbOffset, hciArgsLengthLsbOffset,
      h1, h2, h3, h4, true_and, all_dispatchEvent, setWidth_word16, Traced.all_pure, and_true]
    constructor
    · rintro ⟨hfree, hnormal⟩
      exact ⟨fun h => hfree h.2, fun _ => hnormal, fun h => absurd (h.symm.trans hevent) hne⟩
    · intro h
      exact ⟨fun hop => h.freeBuffers ⟨hevent, hop⟩, h.event hevent⟩
  · by_cases hdata : data 0 = hciTypeData
    · simp only [hdata, hne, if_false, if_true, handleData, Traced.all_bind, all_rx, val_rx,
        hciOpcodeLsbOffset, hciArgsLengthMsbOffset, hciArgsLengthLsbOffset, h1, h2, h3, h4,
        true_and, all_dispatchData, setWidth_dataLength, Traced.all_pure, and_true]
      constructor
      · intro h
        exact ⟨fun hop => absurd hop.1 hevent, fun hop => absurd hop hevent, fun _ => h⟩
      · intro h
        exact h.data hdata
    · simp only [hevent, hdata, if_false, Traced.all_bind, Traced.all_pure, and_true, true_iff]
      exact ⟨fun hop => absurd hop.1 hevent, fun hop => absurd hop hevent,
        fun hop => absurd hop hdata⟩

/-- Storing an accepted frame stays inside the receive buffer, so the accesses of a
reception are in bounds exactly when those of the handler are. -/
theorem all_cc3000SpiReceive (s : State) (h : Accepts s) :
    Traced.All InBounds (cc3000SpiReceive s) ↔ AccessesFit (receivedBuffer s) := by
  obtain ⟨hmsb, hlsb⟩ := headerBytes s
  have hloop := val_receiveLoop s (lengthLsb s).toNat
  have hbuffer : (receiving s (lengthLsb s).toNat).spiRxBuffer = receivedBuffer s := rfl
  simp only [cc3000SpiReceive, hmsb, hlsb, spiLength_eq, rejects_iff, h, not_true_eq_false,
    if_false, afterHeader, Traced.all_bind, hloop, hbuffer, all_cc3000EventHandler,
    Traced.all_pure, and_true, Traced.all_countUp, all_receiveByte, InBounds]
  have hle : (lengthLsb s).toNat ≤ cc300SpiRxBufferSize := h.1
  constructor
  · exact fun hall => hall.2
  · exact fun hfit => ⟨fun i hi => by omega, hfit⟩

theorem accepts_of_result (s : State) (h : (cc3000SpiReceive s).val.1 = 1) : Accepts s := by
  by_contra hnot
  have hzero := (refused_of_not_accepts s hnot).result
  rw [h] at hzero
  exact absurd hzero (by decide)

/-- For every frame that reception accepts, over any earlier buffer content: all
reads of the receive buffer and all writes to the return buffer are in bounds
exactly when the frame's lengths and counts fit. -/
theorem receive_inBounds_iff (s : State) (h : (cc3000SpiReceive s).val.1 = 1) :
    Traced.All InBounds (cc3000SpiReceive s) ↔ AccessesFit (receivedBuffer s) :=
  all_cc3000SpiReceive s (accepts_of_result s h)

/-- A received socket event with four argument bytes. -/
def shortReply : ℕ → Byte :=
  fun i => [0, 9, 0x04, 0x01, 0x10, 0x04, 0x00, 0x03, 0x00, 0x00, 0x00].getD i 0

theorem receive_inBounds_short :
    (cc3000SpiReceive (initial shortReply)).val.1 = 1 ∧
      Traced.All InBounds (cc3000SpiReceive (initial shortReply)) :=
  ⟨by decide, (receive_inBounds_iff _ (by decide)).mpr (by decide)⟩

/-- A data frame of 24 argument bytes and 205 payload bytes, well formed and short
enough to be accepted. -/
def largeDataReply : ℕ → Byte := fun i => [0, 234, 0x02, 0x85, 24, 229, 0].getD i 0

theorem receive_outOfBounds :
    (cc3000SpiReceive (initial largeDataReply)).val.1 = 1 ∧
      ¬ Traced.All InBounds (cc3000SpiReceive (initial largeDataReply)) := by
  have haccept : Accepts (initial largeDataReply) := by decide
  constructor
  · rw [val_cc3000SpiReceive_of_accepts _ haccept]
  · rw [all_cc3000SpiReceive _ haccept]
    intro hfit
    exact absurd (hfit.data (by decide) (by decide)) (by decide)

end Cc3000Async.ReceiveBounds
