import Cc3000Async.BusTransactions
import Cc3000Async.ReceiveBounds
import Cc3000Async.SendCredits
import Cc3000Async.StaleBytes

/-!
The receiving side as a refinement. A link is what the frames of the device mean,
whatever memory they pass through; the driver, which knows a frame by the bytes in its
receive buffer, keeps up with it over every stream of frames.
-/
namespace Cc3000Async.LinkRefinement

open ByteMemory RecordTables Brackets TracedAccess Opcodes DriverState EventHandler SpiReceive
open ReceiveBounds DeviceFrames SendCredits StaleBytes BusTransactions

inductive Frame
  | event (op : BitVec 16) (args : List Byte)
  | data (op : Byte) (args payload : List Byte)
  deriving DecidableEq, Repr

namespace Frame

def bytes : Frame → List Byte
  | event op args => eventFrame op args
  | data op args payload => dataFrame op args payload

def entryCount (args : List Byte) : ℕ := (args.getD 0 0).toNat

/-- The frame fits the receive buffer, has a nonzero opcode, and holds the count and the
places that the free-buffer loop meets, or the four bytes of an address; and the copy of a
data frame, which counts its arguments twice, fits the return buffer. -/
def Proper : Frame → Prop
  | event op args =>
      op ≠ 0 ∧ 5 + args.length ≤ cc300SpiRxBufferSize ∧
        (op = hciEvntDataUnsolFreeBuff →
          0 < args.length ∧ (entryCount args = 0 ∨ 2 + 2 * entryCount args < args.length)) ∧
        (op = hciEvntWlanUnsolDhcp → 4 ≤ args.length)
  | data op args payload =>
      op ≠ 0 ∧ 5 + args.length + payload.length ≤ cc300SpiRxBufferSize ∧
        (op.setWidth 16 = hciDataRecv → (2 * args.length + payload.length) % 256 ≤ 248)

end Frame

/-- What the frames of the device have told so far: the opcode that is waited for, the
number of answers, the connection with its address, whether a socket is to be closed, the
buffers given back, and the bytes of the last block handed over. -/
structure Link where
  pending : Option (BitVec 16)
  answered : ℕ
  connected : Bool
  address : Option (List Byte)
  closing : Bool
  credits : ℕ
  returned : List Byte

def freed (args : List Byte) : ℕ :=
  stridedSum (withPrefix args fun _ => 0) 4 2 (Frame.entryCount args)

namespace Link

def meet (m : Link) (op : BitVec 16) : Link :=
  if m.pending = some op then { m with pending := none, answered := m.answered + 1 } else m

def event (m : Link) (op : BitVec 16) (args : List Byte) : Link :=
  { m with
    connected :=
      if op = hciEvntWlanUnsolConnect then true
      else if op = hciEvntWlanUnsolDisconnect then false
      else m.connected
    address := if op = hciEvntWlanUnsolDhcp then some (args.take 4) else m.address
    closing := if op = hciEvntBsdTcpCloseWait then true else m.closing
    credits := if op = hciEvntDataUnsolFreeBuff then m.credits + freed args else m.credits
    returned := if NormalEvent op then args else m.returned }

/-- The block of a data frame starts with its own argument size and length. -/
def data (m : Link) (op : Byte) (args payload : List Byte) : Link :=
  { m with
    returned :=
      if op.setWidth 16 = hciDataRecv then
        ((dataFrame op args payload).drop 2).take ((2 * args.length + payload.length) % 256)
      else m.returned }

def receive (m : Link) : Frame → Link
  | .event op args => (m.meet op).event op args
  | .data op args payload => (m.meet (op.setWidth 16)).data op args payload

end Link

/-- The driver's variables show the link. -/
structure Shows (s : State) (m : Link) : Prop where
  expect : s.expect = m.pending.getD 0
  nonzero : m.pending ≠ some 0
  currentState : s.currentState = BitVec.ofNat 32 m.answered
  connected : s.state.connected = if m.connected then 1 else 0
  address : ∀ bytes, m.address = some bytes →
    s.state.dhcpComplete = 1 ∧ List.ofFn s.state.ip = bytes
  noAddress : m.address = none → s.state.dhcpComplete = 0
  closing : s.closeSocket = if m.closing then 1 else 0
  credits : s.freeBuffers = BitVec.ofNat 8 m.credits
  returned : Holds s.returnBuffer 0 m.returned

/-- The link is shown by the driver's own variables alone. -/
theorem shows_globals (s : State) (m : Link) : Shows s.globals m ↔ Shows s m :=
  ⟨fun h => ⟨h.expect, h.nonzero, h.currentState, h.connected, h.address, h.noAddress, h.closing,
      h.credits, h.returned⟩,
    fun h => ⟨h.expect, h.nonzero, h.currentState, h.connected, h.address, h.noAddress, h.closing,
      h.credits, h.returned⟩⟩

section Handler

variable {data : Mem} {s : State} {m : Link}

/-- An answer is met by the driver as by the link. -/
theorem meet_counters {op : BitVec 16} (h : Shows s m) (hframe : frameOpcode data = some op)
    (hop : op ≠ 0) :
    (handle data s).expect = (m.meet op).pending.getD 0 ∧ (m.meet op).pending ≠ some 0 ∧
      (handle data s).currentState = BitVec.ofNat 32 (m.meet op).answered := by
  rw [handle_expect, handle_currentState, hframe]
  by_cases hpending : m.pending = some op
  · have hmet : some op = some s.expect := by
      rw [h.expect, hpending]
      rfl
    rw [if_pos hmet, if_pos hmet, Link.meet, if_pos hpending, h.currentState]
    exact ⟨rfl, (Option.some_ne_none 0).symm, (BitVec.ofNat_add m.answered 1).symm⟩
  · have hmiss : some op ≠ some s.expect := by
      intro heq
      rw [h.expect, Option.some.injEq] at heq
      cases hnone : m.pending with
      | none =>
        rw [hnone] at heq
        exact hop heq
      | some op' =>
        rw [hnone] at heq
        have hsame : op = op' := heq
        rw [hsame] at hpending
        exact hpending hnone
    rw [if_neg hmiss, if_neg hmiss, Link.meet, if_neg hpending]
    exact ⟨h.expect, h.nonzero, h.currentState⟩

theorem meet_fields (m : Link) (op : BitVec 16) :
    (m.meet op).connected = m.connected ∧ (m.meet op).address = m.address ∧
      (m.meet op).closing = m.closing ∧ (m.meet op).credits = m.credits ∧
      (m.meet op).returned = m.returned := by
  unfold Link.meet
  split <;> exact ⟨rfl, rfl, rfl, rfl, rfl⟩

theorem toNat_entryCount {args : List Byte} (hargs : Holds data 5 args) (hpos : 0 < args.length) :
    (data 5).toNat = Frame.entryCount args := by
  have hcell := hargs 0 hpos
  rw [Nat.add_zero] at hcell
  simp [hcell, Frame.entryCount, hpos]

/-- A block of arguments that fits the receive buffer fits a byte. -/
theorem credits_freeBuff {args : List Byte} (hargs : Holds data 5 args) (hpos : 0 < args.length)
    (hcount : Frame.entryCount args = 0 ∨ 2 + 2 * Frame.entryCount args < args.length)
    (hevent : IsEvent data hciEvntDataUnsolFreeBuff) :
    credits data = BitVec.ofNat 8 (freed args) := by
  have hfirst := toNat_entryCount hargs hpos
  have hsum : ∀ n, n ≤ Frame.entryCount args →
      stridedSum data 9 2 n = stridedSum (withPrefix args fun _ => 0) 4 2 n := by
    intro n hn
    induction n with
    | zero => rfl
    | succ n ih =>
      have hlt : 4 + 2 * n < args.length := by omega
      have hplace : 9 + 2 * n = 5 + (4 + 2 * n) := by omega
      rw [stridedSum_succ, stridedSum_succ, ih (by omega), hplace, hargs _ hlt]
      simp [withPrefix, hlt]
  rw [credits, if_pos hevent, creditSum_eq, hfirst, hsum _ (Nat.le_refl _), freed]

variable {op : BitVec 16} {args : List Byte}

theorem isEvent_iff (hdata : Holds data 0 (eventFrame op args)) (x : BitVec 16) :
    IsEvent data x ↔ op = x := by
  obtain ⟨htype, hop, -⟩ := event_header hdata
  rw [IsEvent, hop]
  exact and_iff_right htype

theorem holds_take_four (hargs : Holds data 5 args) (hlen : 4 ≤ args.length) :
    List.ofFn ![data 5, data 6, data 7, data 8] = args.take 4 := by
  obtain ⟨b0, b1, b2, b3, rest, rfl⟩ : ∃ b0 b1 b2 b3 rest, args = b0 :: b1 :: b2 :: b3 :: rest := by
    match args, hlen with
    | b0 :: b1 :: b2 :: b3 :: rest, _ => exact ⟨b0, b1, b2, b3, rest, rfl⟩
  have h0 := hargs 0 (by simp)
  have h1 := hargs 1 (by simp)
  have h2 := hargs 2 (by simp)
  have h3 := hargs 3 (by simp)
  simp only [Nat.add_zero, Nat.reduceAdd] at h0 h1 h2 h3
  simp [h0, h1, h2, h3, List.ofFn_succ]

/-- The parts of the connection state change with one event each. -/
theorem linkAfter_fields (hdata : Holds data 0 (eventFrame op args)) (c : Cc3000State) :
    (linkAfter data c).connected =
        (if op = hciEvntWlanUnsolConnect then 1
        else if op = hciEvntWlanUnsolDisconnect then 0 else c.connected) ∧
      (linkAfter data c).dhcpComplete =
        (if op = hciEvntWlanUnsolDhcp then 1 else c.dhcpComplete) ∧
      (linkAfter data c).ip =
        (if op = hciEvntWlanUnsolDhcp then ![data 5, data 6, data 7, data 8] else c.ip) := by
  simp only [linkAfter, isEvent_iff hdata]
  by_cases hconnect : op = hciEvntWlanUnsolConnect
  · subst hconnect
    exact ⟨rfl, rfl, rfl⟩
  by_cases hdisconnect : op = hciEvntWlanUnsolDisconnect
  · subst hdisconnect
    exact ⟨rfl, rfl, rfl⟩
  rw [if_neg hconnect, if_neg hdisconnect, if_neg hconnect, if_neg hdisconnect]
  split_ifs <;> exact ⟨rfl, rfl, rfl⟩

theorem shows_event (h : Shows s m) (hdata : Holds data 0 (eventFrame op args))
    (hproper : Frame.Proper (.event op args)) :
    Shows (handle data s) (m.receive (.event op args)) := by
  obtain ⟨hop, hfits, hfreeBuff, hdhcp⟩ := hproper
  have hargs := event_args hdata
  have hshort : args.length < 256 := by
    have hsize : cc300SpiRxBufferSize = 250 := rfl
    omega
  have hevent := isEvent_iff hdata
  obtain ⟨hexpect, hnonzero, hcurrent⟩ := meet_counters h (frameOpcode_event hdata) hop
  obtain ⟨hconnected, haddress, hclosing, hcredits, hreturned⟩ := meet_fields m op
  obtain ⟨hconnectedAfter, hdhcpAfter, hipAfter⟩ := linkAfter_fields hdata s.state
  refine ⟨hexpect, hnonzero, hcurrent, ?_, ?_, ?_, ?_, ?_, ?_⟩
  · simp only [handle_state, hconnectedAfter, Link.receive, Link.event, hconnected]
    by_cases hconnect : op = hciEvntWlanUnsolConnect
    · rw [if_pos hconnect, if_pos hconnect]
      rfl
    by_cases hdisconnect : op = hciEvntWlanUnsolDisconnect
    · rw [if_neg hconnect, if_neg hconnect, if_pos hdisconnect, if_pos hdisconnect]
      rfl
    · rw [if_neg hconnect, if_neg hconnect, if_neg hdisconnect, if_neg hdisconnect]
      exact h.connected
  · simp only [handle_state, hdhcpAfter, hipAfter, Link.receive, Link.event, haddress]
    by_cases heq : op = hciEvntWlanUnsolDhcp
    · simp only [if_pos heq]
      intro bytes hbytes
      rw [← Option.some.inj hbytes]
      exact ⟨trivial, holds_take_four hargs (hdhcp heq)⟩
    · simp only [if_neg heq]
      exact h.address
  · simp only [handle_state, hdhcpAfter, Link.receive, Link.event, haddress]
    by_cases heq : op = hciEvntWlanUnsolDhcp
    · rw [if_pos heq]
      exact fun hnone => absurd hnone (Option.some_ne_none _)
    · rw [if_neg heq, if_neg heq]
      exact h.noAddress
  · simp only [handle_closeSocket, closeAfter, hevent, Link.receive, Link.event, hclosing]
    by_cases heq : op = hciEvntBsdTcpCloseWait
    · rw [if_pos heq, if_pos heq]
      rfl
    · rw [if_neg heq, if_neg heq]
      exact h.closing
  · simp only [handle_freeBuffers, Link.receive, Link.event, hcredits]
    by_cases hfree : op = hciEvntDataUnsolFreeBuff
    · obtain ⟨hpos, hcount⟩ := hfreeBuff hfree
      rw [if_pos hfree, credits_freeBuff hargs hpos hcount ((hevent _).mpr hfree), h.credits,
        BitVec.ofNat_add]
    · rw [if_neg hfree, credits, if_neg (mt (hevent _).mp hfree), h.credits]
      exact BitVec.add_zero _
  · simp only [handle_returnBuffer, copyReturn_event hdata hshort, Link.receive, Link.event,
      hreturned]
    by_cases hnormal : NormalEvent op
    · rw [if_pos hnormal, if_pos hnormal]
      exact holds_overlay hargs
    · rw [if_neg hnormal, if_neg hnormal]
      exact h.returned

/-- A memory that holds a block holds the beginning of what follows any of its places. -/
theorem holds_block {bytes : List Byte} (hdata : Holds data 0 bytes) (start size : ℕ)
    (buffer : Mem) :
    Holds (overlay (fun i => data (i + start)) size buffer) 0 ((bytes.drop start).take size) := by
  intro i hi
  rw [List.length_take, List.length_drop] at hi
  have hlt : i < size := by omega
  have hat : i + start < bytes.length := by omega
  rw [Nat.zero_add, overlay_lt _ _ hlt, hdata.at_zero _ hat, List.getElem_take,
    List.getElem_drop]
  simp only [Nat.add_comm]

theorem shows_data {payload : List Byte} {op : Byte} (h : Shows s m)
    (hdata : Holds data 0 (dataFrame op args payload))
    (hproper : Frame.Proper (.data op args payload)) :
    Shows (handle data s) (m.receive (.data op args payload)) := by
  obtain ⟨hop, -⟩ := hproper
  have hwide : op.setWidth 16 ≠ 0 := by
    intro hzero
    apply hop
    apply BitVec.eq_of_toNat_eq
    have hval := congrArg BitVec.toNat hzero
    rw [BitVec.toNat_setWidth_of_le (by omega)] at hval
    exact hval
  obtain ⟨htype, hbyte, -, -⟩ := data_header hdata
  have hne : hciTypeData ≠ hciTypeEvent := by decide
  have hevent : ∀ x, ¬ IsEvent data x := fun x hx => hne (htype.symm.trans hx.1)
  obtain ⟨hexpect, hnonzero, hcurrent⟩ := meet_counters h (frameOpcode_data hdata) hwide
  obtain ⟨hconnected, haddress, hclosing, hcredits, hreturned⟩ := meet_fields m (op.setWidth 16)
  have hlink : linkAfter data s.state = s.state := by
    simp only [linkAfter, if_neg (hevent _)]
  have hclose : closeAfter data s.closeSocket = s.closeSocket := if_neg (hevent _)
  have hfree : s.freeBuffers + credits data = s.freeBuffers := by
    rw [credits, if_neg (hevent _)]
    exact BitVec.add_zero _
  refine ⟨hexpect, hnonzero, hcurrent, ?_, ?_, ?_, ?_, ?_, ?_⟩
  · simp only [handle_state, hlink, Link.receive, Link.data, hconnected]
    exact h.connected
  · simp only [handle_state, hlink, Link.receive, Link.data, haddress]
    exact h.address
  · simp only [handle_state, hlink, Link.receive, Link.data, haddress]
    exact h.noAddress
  · simp only [handle_closeSocket, hclose, Link.receive, Link.data, hclosing]
    exact h.closing
  · simp only [handle_freeBuffers, hfree, Link.receive, Link.data, hcredits]
    exact h.credits
  · simp only [handle_returnBuffer, Link.receive, Link.data, hreturned]
    by_cases hrecv : op.setWidth 16 = hciDataRecv
    · rw [copyReturn_dataFrame hdata hrecv, if_pos hrecv]
      exact holds_block hdata 2 _ s.returnBuffer
    · rw [copyReturn_of_data data _ htype, hbyte, if_neg hrecv, if_neg hrecv]
      exact h.returned

theorem shows_handle {f : Frame} (h : Shows s m) (hdata : Holds data 0 f.bytes)
    (hproper : f.Proper) : Shows (handle data s) (m.receive f) := by
  cases f with
  | event op args => exact shows_event h hdata hproper
  | data op args payload => exact shows_data h hdata hproper

end Handler

def encode (f : Frame) : List Byte := 0 :: BitVec.ofNat 8 f.bytes.length :: f.bytes

/-- So many calls of `cc3000_spi_receive`, one for each interrupt. -/
def receiveTimes : ℕ → State → State
  | 0, s => s
  | n + 1, s => receiveTimes n (cc3000SpiReceive s).val.2

def readOf (f : Frame) : List Transfer :=
  [.sent spiOperationRead, .sent 0, .sent 0] ++ (encode f).map .received

theorem length_bytes {f : Frame} (h : f.Proper) :
    f.bytes ≠ [] ∧ f.bytes.length ≤ cc300SpiRxBufferSize := by
  cases f with
  | event op args =>
    have hfits := h.2.1
    refine ⟨List.cons_ne_nil _ _, ?_⟩
    simp only [Frame.bytes, eventFrame, List.length_append, List.length_cons, List.length_nil]
    omega
  | data op args payload =>
    have hfits := h.2.1
    refine ⟨List.cons_ne_nil _ _, ?_⟩
    simp only [Frame.bytes, dataFrame, List.length_append, List.length_cons, List.length_nil]
    omega

theorem length_encode (f : Frame) : (encode f).length = f.bytes.length + 2 := rfl

/-- The lengths and counts of a proper frame fit the buffers. -/
theorem accessesFit_of_proper {f : Frame} (hproper : f.Proper) {data : Mem}
    (hdata : Holds data 0 f.bytes) : AccessesFit data := by
  have hsize : cc300SpiRxBufferSize = 250 := rfl
  have hne : hciTypeData ≠ hciTypeEvent := by decide
  cases f with
  | event op args =>
    obtain ⟨-, hfits, hfreeBuff, -⟩ := hproper
    obtain ⟨htype, -, hlsb⟩ := event_header hdata
    refine ⟨fun hevent => ?_, fun _ _ => ?_, fun hdata' => absurd (hdata'.symm.trans htype) hne⟩
    · obtain ⟨hpos, hcount⟩ := hfreeBuff ((isEvent_iff hdata _).mp hevent)
      rw [toNat_entryCount (event_args hdata) hpos]
      omega
    · rw [hlsb, BitVec.toNat_ofNat]
      omega
  | data op args payload =>
    obtain ⟨-, -, hcopy⟩ := hproper
    obtain ⟨htype, hbyte, hargs, hlength⟩ := data_header hdata
    refine ⟨fun hevent => absurd (htype.symm.trans hevent.1) hne,
      fun hevent => absurd (htype.symm.trans hevent) hne, fun _ hrecv => ?_⟩
    rw [hbyte] at hrecv
    have hsum := hcopy hrecv
    rw [hlength, hargs, BitVec.toNat_add, BitVec.toNat_ofNat, BitVec.toNat_ofNat]
    omega

/-- One reception takes exactly one frame off the stream, inside its buffers. -/
structure Took (f : Frame) (s t : State) : Prop where
  inBounds : Traced.All InBounds (cc3000SpiReceive s)
  misoPos : t.misoPos = s.misoPos + (encode f).length
  miso : t.miso = s.miso
  bus : ∃ events, t.bus = s.bus ++ events ∧
    transactions events = some { closed := [readOf f], current := none }

theorem readTransaction_eq {f : Frame} (hproper : f.Proper) {reply : ℕ → Byte}
    (h : Holds reply 0 (encode f)) : readTransaction reply = readOf f := by
  obtain ⟨-, hfits⟩ := length_bytes hproper
  have hsize : cc300SpiRxBufferSize = 250 := rfl
  have h0 : reply 0 = 0 := h.at_zero 0 (by simp [encode])
  have h1 : reply 1 = BitVec.ofNat 8 f.bytes.length := h.at_zero 1 (by simp [encode])
  have hlength : (reply 1).toNat = f.bytes.length := by
    rw [h1, BitVec.toNat_ofNat]
    omega
  have hbytes : (List.range f.bytes.length).map (fun i => reply (2 + i)) = f.bytes := by
    apply List.ext_getElem
    · rw [List.length_map, List.length_range]
    · intro i _ hi
      have hcell := h.at_zero (2 + i) (by rw [length_encode]; omega)
      rw [List.getElem_map, List.getElem_range, hcell]
      simp [encode, Nat.add_comm 2 i]
  have hmap := congrArg (List.map Transfer.received) hbytes
  rw [List.map_map] at hmap
  rw [readTransaction, h0, h1, ← h1, hlength, if_pos hfits, readOf, encode, List.map_cons,
    List.map_cons, ← hmap, ← h1]
  rfl

theorem took_receive {f : Frame} (hproper : f.Proper) {s : State}
    (h : Holds s.miso s.misoPos (encode f)) :
    Took f s (cc3000SpiReceive s).val.2 ∧ (cc3000SpiReceive s).val.1 = 1 ∧
      ∃ data, Holds data 0 f.bytes ∧
        (cc3000SpiReceive s).val.2.globals = (handle data s).globals := by
  obtain ⟨hne, hfits⟩ := length_bytes hproper
  obtain ⟨haccept, hlsb, hbuffer⟩ := receivedBuffer_of_holds hne hfits h
  obtain ⟨hresult, -, hglobals⟩ := receive_of_accepts s haccept
  have hreply : Holds (fun i => s.miso (s.misoPos + i)) 0 (encode f) := by
    intro i hi
    rw [Nat.zero_add]
    exact h i hi
  obtain ⟨⟨hbus, -, -⟩, -⟩ := receives_cc3000SpiReceive s (fun i => rfl)
  rw [readTransaction_eq hproper hreply] at hbus
  have hdata : Holds (receivedBuffer s) 0 f.bytes := by
    rw [hbuffer]
    exact holds_withPrefix f.bytes s.spiRxBuffer
  refine ⟨⟨?_, ?_, ?_, hbus⟩, hresult, receivedBuffer s, hdata, hglobals⟩
  · exact (all_cc3000SpiReceive s haccept).mpr (accessesFit_of_proper hproper hdata)
  · rw [val_cc3000SpiReceive_of_accepts s haccept, handle_eq, length_encode, ← hlsb]
    simp only [Action.exec, State.onBus, receiving]
    omega
  · rw [val_cc3000SpiReceive_of_accepts s haccept, handle_eq]
    rfl

/-- For every list of proper frames that the device sends one after the other, and every
state that shows a link: as many receptions read exactly the bytes of the stream, one frame
in each and inside the buffers, and leave a state that shows what the link becomes by these
frames. -/
theorem stream_received (fs : List Frame) (hfs : ∀ f ∈ fs, f.Proper) (s : State) (m : Link)
    (h : Shows s m) (hstream : Holds s.miso s.misoPos (fs.flatMap encode)) :
    Shows (receiveTimes fs.length s) (fs.foldl Link.receive m) ∧
    (∀ i, i < fs.length → Traced.All InBounds (cc3000SpiReceive (receiveTimes i s))) ∧
    (receiveTimes fs.length s).misoPos = s.misoPos + (fs.flatMap encode).length ∧
    ∃ events, (receiveTimes fs.length s).bus = s.bus ++ events ∧
      transactions events = some { closed := fs.map readOf, current := none } := by
  induction fs generalizing s m with
  | nil =>
    exact ⟨h, fun i hi => absurd hi (Nat.not_lt_zero i), rfl, [], (List.append_nil _).symm, rfl⟩
  | cons f fs ih =>
    have hproper := hfs f List.mem_cons_self
    rw [List.flatMap_cons] at hstream
    obtain ⟨⟨hinBounds, hpos, hmiso, events, hbus, hread⟩, -, data, hdata, hglobals⟩ :=
      took_receive hproper hstream.append_left
    have hshows : Shows (cc3000SpiReceive s).val.2 (m.receive f) := by
      rw [← shows_globals, hglobals, shows_globals]
      exact shows_handle h hdata hproper
    have hrest : Holds (cc3000SpiReceive s).val.2.miso (cc3000SpiReceive s).val.2.misoPos
        (fs.flatMap encode) := by
      rw [hmiso, hpos]
      exact hstream.append_right
    obtain ⟨hlast, hinside, hlastPos, later, hlater, hreads⟩ :=
      ih (fun f' hf' => hfs f' (List.mem_cons_of_mem f hf')) _ _ hshows hrest
    refine ⟨hlast, fun i hi => ?_, ?_, events ++ later, ?_, ?_⟩
    · cases i with
      | zero => exact hinBounds
      | succ i => exact hinside i (Nat.lt_of_succ_lt_succ hi)
    · change (receiveTimes fs.length (cc3000SpiReceive s).val.2).misoPos = _
      rw [hlastPos, hpos, List.flatMap_cons, List.length_append, Nat.add_assoc]
    · change (receiveTimes fs.length (cc3000SpiReceive s).val.2).bus = _
      rw [hlater, hbus, List.append_assoc]
    · exact transactions_append_whole hread rfl hreads

def unknownLink : Link := ⟨none, 0, false, none, false, 0, []⟩

theorem shows_initial (miso : ℕ → Byte) : Shows (initial miso) unknownLink where
  expect := rfl
  nonzero := (Option.some_ne_none 0).symm
  currentState := rfl
  connected := rfl
  address := fun _ h => absurd h (Option.some_ne_none _).symm
  noAddress := fun _ => rfl
  closing := rfl
  credits := rfl
  returned := fun _ hi => absurd hi (Nat.not_lt_zero _)

/-- A connection and its address, and one buffer given back. -/
def joinFrames : List Frame :=
  [.event hciEvntWlanUnsolConnect [0], .event hciEvntWlanUnsolDhcp [10, 0, 0, 7],
    .event hciEvntDataUnsolFreeBuff [1, 0, 0, 0, 1, 0]]

theorem stream_received_join :
    Shows (receiveTimes 3 (initial (withPrefix (joinFrames.flatMap encode) fun _ => 0)))
      ⟨none, 0, true, some [10, 0, 0, 7], false, 1, []⟩ := by
  have hproper : ∀ f ∈ joinFrames, f.Proper := by
    intro f hf
    simp only [joinFrames, List.mem_cons, List.not_mem_nil, or_false] at hf
    rcases hf with rfl | rfl | rfl <;> exact ⟨by decide, by decide, by decide, by decide⟩
  have hstream := holds_withPrefix (joinFrames.flatMap encode) fun _ => 0
  exact (stream_received joinFrames hproper _ unknownLink (shows_initial _) hstream).1

end Cc3000Async.LinkRefinement
