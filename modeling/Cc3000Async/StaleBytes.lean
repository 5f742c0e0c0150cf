import Cc3000Async.SpiReceive
import Mathlib.Logic.Function.DependsOn
import Mathlib.Order.Interval.Set.Defs

/-!
The influence of what earlier traffic left in the receive buffer. The handler is not
told how many bytes of the buffer are new, so what it reads is new only where the frame's
own length covers it: each part of the driver's state is compared over two leftovers.
-/
namespace Cc3000Async.StaleBytes

open ByteMemory TracedAccess Opcodes DriverState EventHandler SpiReceive

/-- The device announces the length of the frame, sends the frame, and more later. -/
def transmission (frame : List Byte) (later : Mem) : Mem :=
  withPrefix (0 :: BitVec.ofNat 8 frame.length :: frame) later

/-- The driver's variables after receiving the frame over the given buffer content. -/
def received (frame : List Byte) (later : Mem) (s : State) (stale : Mem) : State :=
  (cc3000SpiReceive
    { s with
      miso := transmission frame later, misoPos := 0, spiRxBuffer := stale }).val.2.globals

def shown (frame : List Byte) : Mem := withPrefix frame fun _ => 0

def declaredLength (frame : List Byte) : ℕ := (word16 (shown frame 4) (shown frame 3)).toNat

/-- A frame that fits the receive buffer and holds what it declares. -/
structure WellFormed (frame : List Byte) : Prop where
  header : 5 ≤ frame.length
  fits : frame.length ≤ cc300SpiRxBufferSize
  declared : 5 + declaredLength frame ≤ frame.length
  type : shown frame 0 = hciTypeEvent ∨
    shown frame 0 = hciTypeData ∧ (shown frame 2).toNat ≤ declaredLength frame

/-- All that the handler reads lies inside the frame. A full buffer leaves no stale byte;
otherwise a free-buffer event carries its count and all the entries the loop meets, an
address event its four address bytes, and a data frame as many bytes as its copy takes. -/
structure SelfContained (frame : List Byte) : Prop where
  freeBuffers : IsEvent (shown frame) hciEvntDataUnsolFreeBuff →
    frame.length = cc300SpiRxBufferSize ∨ 5 < frame.length ∧
      ((shown frame 5).toNat = 0 ∨ 7 + 2 * (shown frame 5).toNat < frame.length)
  address : IsEvent (shown frame) hciEvntWlanUnsolDhcp → 9 ≤ frame.length
  data : shown frame 0 = hciTypeData → (shown frame 1).setWidth 16 = hciDataRecv →
    frame.length = cc300SpiRxBufferSize ∨
      2 + (shown frame 3 + shown frame 2).toNat ≤ frame.length

abbrev outside : Set ℕ := Set.Ici cc300SpiRxBufferSize

/-- A frame that comes next and fits is accepted, and stored over the stale content. -/
theorem receivedBuffer_of_holds {frame : List Byte} (hne : frame ≠ [])
    (hfits : frame.length ≤ cc300SpiRxBufferSize) {s : State}
    (h : Holds s.miso s.misoPos (0 :: BitVec.ofNat 8 frame.length :: frame)) :
    Accepts s ∧ (lengthLsb s).toNat = frame.length ∧
      receivedBuffer s = withPrefix frame s.spiRxBuffer := by
  have hsize : cc300SpiRxBufferSize = 250 := rfl
  have hpositive := List.length_pos_iff.mpr hne
  have hat : lengthLsb s = BitVec.ofNat 8 frame.length := h 1 (by simp)
  have hlsb : (lengthLsb s).toNat = frame.length := by
    rw [hat, BitVec.toNat_ofNat]
    omega
  refine ⟨⟨by omega, fun hzero => ?_⟩, hlsb, ?_⟩
  · have hnil : (0#8).toNat = 0 := rfl
    rw [hzero] at hlsb
    omega
  · funext i
    by_cases hi : i < frame.length
    · have hbyte : payload s i = withPrefix frame s.spiRxBuffer i := by
        have hcell := h (i + 2) (by simp only [List.length_cons]; omega)
        have hplace : s.misoPos + 2 + i = s.misoPos + (i + 2) := by omega
        rw [payload, hplace, hcell]
        simp [withPrefix, hi]
      rw [← hbyte]
      exact overlay_lt _ _ (by omega)
    · rw [withPrefix_ge (Nat.not_lt.mp hi)]
      exact overlay_ge _ _ (by omega)

theorem receivedBuffer_transmission {frame : List Byte} (hne : frame ≠ [])
    (hfits : frame.length ≤ cc300SpiRxBufferSize) (later : Mem) (s : State)
    (hmiso : s.miso = transmission frame later) (hpos : s.misoPos = 0) :
    Accepts s ∧ receivedBuffer s = withPrefix frame s.spiRxBuffer := by
  have hholds : Holds s.miso s.misoPos (0 :: BitVec.ofNat 8 frame.length :: frame) := by
    rw [hmiso, hpos]
    exact holds_withPrefix _ later
  obtain ⟨haccept, -, hbuffer⟩ := receivedBuffer_of_holds hne hfits hholds
  exact ⟨haccept, hbuffer⟩

theorem received_eq {frame : List Byte} (hshort : 5 ≤ frame.length)
    (hfits : frame.length ≤ cc300SpiRxBufferSize) (later : Mem) (s : State) (stale : Mem) :
    received frame later s stale = handle (withPrefix frame stale) s.globals := by
  let t : State :=
    { s with miso := transmission frame later, misoPos := 0, spiRxBuffer := stale }
  have hne : frame ≠ [] := List.ne_nil_of_length_pos (by omega)
  obtain ⟨haccept, hbuffer⟩ := receivedBuffer_transmission hne hfits later t rfl rfl
  have hstale : t.spiRxBuffer = stale := rfl
  obtain ⟨-, -, hglobals⟩ := receive_of_accepts t haccept
  have ht : t.globals = s.globals := rfl
  rw [hbuffer, hstale, handle_globals, ht] at hglobals
  exact hglobals

section Frame

variable {frame : List Byte}

theorem header_withPrefix (h : 5 ≤ frame.length) (stale : Mem) :
    ∀ i, i < 5 → withPrefix frame stale i = shown frame i :=
  fun _ hi => withPrefix_lt (Nat.lt_of_lt_of_le hi h) stale _

theorem isEvent_withPrefix (h : 5 ≤ frame.length) (stale : Mem) (op : BitVec 16) :
    IsEvent (withPrefix frame stale) op ↔ IsEvent (shown frame) op := by
  have hheader := header_withPrefix h stale
  rw [IsEvent, IsEvent, hheader 0 (by omega), hheader 1 (by omega), hheader 2 (by omega)]

theorem frameOpcode_withPrefix (h : 5 ≤ frame.length) (stale : Mem) :
    frameOpcode (withPrefix frame stale) = frameOpcode (shown frame) := by
  have hheader := header_withPrefix h stale
  rw [frameOpcode, frameOpcode, hheader 0 (by omega), hheader 1 (by omega),
    hheader 2 (by omega)]

/-- A frame that fills the buffer hides everything that was in it. -/
theorem withPrefix_full (hfull : frame.length = cc300SpiRxBufferSize) {x y : Mem}
    (hxy : ∀ i ∈ outside, x i = y i) : withPrefix frame x = withPrefix frame y := by
  funext i
  by_cases hi : i < frame.length
  · exact withPrefix_lt hi x y
  · have hge := Nat.not_lt.mp hi
    rw [withPrefix_ge hge, withPrefix_ge hge]
    exact hxy i (Nat.le_trans (Nat.le_of_eq hfull.symm) hge)

/-- A stale byte of zero, or of one at a single place. -/
def bump (j : ℕ) : Mem := fun i => if i = j then 1 else 0

theorem bump_outside {j : ℕ} (hj : j < cc300SpiRxBufferSize) :
    ∀ i ∈ outside, (fun _ => 0 : Mem) i = bump j i := by
  intro i hi
  have hne : i ≠ j := Nat.ne_of_gt (Nat.lt_of_lt_of_le hj hi)
  simp [bump, hne]

theorem creditSum_congr {m m' : Mem} (n : ℕ)
    (h : ∀ i, i < n → m (5 + 2 + 2 + i * 2) = m' (5 + 2 + 2 + i * 2)) :
    creditSum m n = creditSum m' n := by
  induction n with
  | zero => rfl
  | succ n ih =>
    rw [creditSum, creditSum, ih (fun i hi => h i (by omega)), h n (by omega)]

/-- One more at one of the places that the loop meets is one more in the sum. -/
theorem creditSum_succ {m m' : Mem} {k : ℕ} (n : ℕ) (hk : k < n)
    (hat : m' (5 + 2 + 2 + k * 2) = m (5 + 2 + 2 + k * 2) + 1)
    (hother : ∀ i, i ≠ k → m' (5 + 2 + 2 + i * 2) = m (5 + 2 + 2 + i * 2)) :
    creditSum m' n = creditSum m n + 1 := by
  induction n with
  | zero => exact absurd hk (Nat.not_lt_zero k)
  | succ n ih =>
    rw [creditSum, creditSum]
    by_cases hlast : k = n
    · subst hlast
      rw [hat, creditSum_congr k (fun i hi => hother i (by omega)), BitVec.add_assoc]
    · rw [ih (by omega), hother n (Ne.symm hlast), BitVec.add_assoc, BitVec.add_assoc,
        BitVec.add_comm 1]

theorem credits_withPrefix (h : 5 ≤ frame.length)
    (hfree : IsEvent (shown frame) hciEvntDataUnsolFreeBuff) (stale : Mem) :
    credits (withPrefix frame stale) =
      creditSum (withPrefix frame stale) (withPrefix frame stale 5).toNat :=
  if_pos ((isEvent_withPrefix h stale _).mpr hfree)

/-- Without a count of its own, the event counts whatever entries the leftover has: none,
or one with one credit. -/
theorem not_dependsOn_count (h : frame.length = 5)
    (hfree : IsEvent (shown frame) hciEvntDataUnsolFreeBuff) :
    ¬ DependsOn (fun stale => credits (withPrefix frame stale)) outside := by
  have hsize : cc300SpiRxBufferSize = 250 := rfl
  let one : Mem := fun i => if i = 5 ∨ i = 9 then 1 else 0
  intro hdep
  have hsame : credits (withPrefix frame fun _ => 0) = credits (withPrefix frame one) := by
    apply hdep
    intro i hi
    have hge : cc300SpiRxBufferSize ≤ i := hi
    have hne : ¬ (i = 5 ∨ i = 9) := by omega
    exact (if_neg hne).symm
  rw [credits_withPrefix (by omega) hfree, credits_withPrefix (by omega) hfree,
    withPrefix_ge (by omega), withPrefix_ge (by omega)] at hsame
  have hone : creditSum (withPrefix frame one) 1 = 1 := by
    rw [creditSum, creditSum, withPrefix_ge (by omega)]
    rfl
  have hzero : creditSum (withPrefix frame fun _ => 0) (0 : Byte).toNat = 0 := rfl
  have hcontra : (0 : Byte) = 1 := hzero.symm.trans (hsame.trans hone)
  exact absurd hcontra (by decide)

/-- An entry that the loop meets past the end of the frame is the leftover's. -/
theorem not_dependsOn_entry (h : 5 < frame.length) (hfits : frame.length < cc300SpiRxBufferSize)
    (hfree : IsEvent (shown frame) hciEvntDataUnsolFreeBuff)
    (hcount : (shown frame 5).toNat ≠ 0)
    (hread : frame.length ≤ 7 + 2 * (shown frame 5).toNat) :
    ¬ DependsOn (fun stale => credits (withPrefix frame stale)) outside := by
  have hsize : cc300SpiRxBufferSize = 250 := rfl
  have hfive : ∀ stale, withPrefix frame stale 5 = shown frame 5 := fun stale =>
    withPrefix_lt h stale _
  -- the first entry of the loop at or past the end of the frame
  obtain ⟨k, hk⟩ : ∃ k, k = (frame.length - 8) / 2 := ⟨_, rfl⟩
  have hpast : frame.length ≤ 5 + 2 + 2 + k * 2 := by omega
  intro hdep
  have hsame : credits (withPrefix frame fun _ => 0) =
      credits (withPrefix frame (bump (5 + 2 + 2 + k * 2))) :=
    hdep (bump_outside (by omega))
  rw [credits_withPrefix (by omega) hfree, credits_withPrefix (by omega) hfree, hfive,
    hfive] at hsame
  have hmore : creditSum (withPrefix frame (bump (5 + 2 + 2 + k * 2))) (shown frame 5).toNat =
      creditSum (withPrefix frame fun _ => 0) (shown frame 5).toNat + 1 := by
    apply creditSum_succ (k := k) _ (by omega)
    · rw [withPrefix_ge hpast, withPrefix_ge hpast, bump, if_pos rfl]
      rfl
    · intro i hi
      by_cases hlt : 5 + 2 + 2 + i * 2 < frame.length
      · exact withPrefix_lt hlt _ _
      · have hne : 5 + 2 + 2 + i * 2 ≠ 5 + 2 + 2 + k * 2 := by omega
        rw [withPrefix_ge (Nat.not_lt.mp hlt), withPrefix_ge (Nat.not_lt.mp hlt), bump,
          if_neg hne]
  rw [hmore] at hsame
  exact absurd (BitVec.self_eq_add_right.mp hsame) (by decide)

/-- The credits of a free-buffer event are its own exactly when its count and the entries
that the loop meets are inside it. -/
theorem dependsOn_credits (h : WellFormed frame) :
    DependsOn (fun stale => credits (withPrefix frame stale)) outside ↔
      (IsEvent (shown frame) hciEvntDataUnsolFreeBuff →
        frame.length = cc300SpiRxBufferSize ∨ 5 < frame.length ∧
          ((shown frame 5).toNat = 0 ∨ 7 + 2 * (shown frame 5).toNat < frame.length)) := by
  obtain ⟨hshort, hfits, -, -⟩ := h
  constructor
  · intro hdep hfree
    by_contra hnot
    simp only [not_or, not_and, Nat.not_lt] at hnot
    obtain ⟨hfull, hshown⟩ := hnot
    by_cases hlong : 5 < frame.length
    · obtain ⟨hcount, hread⟩ := hshown hlong
      exact not_dependsOn_entry hlong (by omega) hfree hcount hread hdep
    · exact not_dependsOn_count (by omega) hfree hdep
  · intro hown x y hxy
    change credits (withPrefix frame x) = credits (withPrefix frame y)
    by_cases hfree : IsEvent (shown frame) hciEvntDataUnsolFreeBuff
    · rcases hown hfree with hfull | ⟨hlong, hread⟩
      · rw [withPrefix_full hfull hxy]
      · have hfive := withPrefix_lt hlong x y
        rw [credits_withPrefix hshort hfree, credits_withPrefix hshort hfree, hfive]
        apply creditSum_congr
        intro i hi
        have hcount : withPrefix frame y 5 = shown frame 5 := withPrefix_lt hlong y _
        rw [hcount] at hi
        exact withPrefix_lt (by omega) x y
    · rw [credits, credits, if_neg (mt (isEvent_withPrefix hshort x _).mp hfree),
        if_neg (mt (isEvent_withPrefix hshort y _).mp hfree)]

/-- The link state takes bytes from the frame only for the address. -/
theorem dependsOn_link (h : WellFormed frame) (c : Cc3000State) :
    DependsOn (fun stale => linkAfter (withPrefix frame stale) c) outside ↔
      (IsEvent (shown frame) hciEvntWlanUnsolDhcp → 9 ≤ frame.length) := by
  have hsize : cc300SpiRxBufferSize = 250 := rfl
  obtain ⟨hshort, hfits, -, -⟩ := h
  have hevent := isEvent_withPrefix hshort
  by_cases hdhcp : IsEvent (shown frame) hciEvntWlanUnsolDhcp
  · have hlink := fun stale => linkAfter_of_dhcp ((hevent stale _).mpr hdhcp) c
    constructor
    · intro hdep _
      by_contra hlt
      have hsame : linkAfter (withPrefix frame fun _ => 0) c =
          linkAfter (withPrefix frame (bump 8)) c := hdep (bump_outside (by omega))
      rw [hlink, hlink] at hsame
      have hlast := congrFun (congrArg Cc3000State.ip hsame) 3
      change withPrefix frame (fun _ => 0) 8 = withPrefix frame (bump 8) 8 at hlast
      rw [withPrefix_ge (by omega), withPrefix_ge (by omega)] at hlast
      exact absurd hlast (by decide)
    · intro hown x y _
      have hlong := hown hdhcp
      change linkAfter (withPrefix frame x) c = linkAfter (withPrefix frame y) c
      rw [hlink, hlink, withPrefix_lt (by omega : 5 < frame.length) x y,
        withPrefix_lt (by omega : 6 < frame.length) x y,
        withPrefix_lt (by omega : 7 < frame.length) x y,
        withPrefix_lt (by omega : 8 < frame.length) x y]
  · constructor
    · exact fun _ hyes => absurd hyes hdhcp
    · intro _ x y _
      change linkAfter (withPrefix frame x) c = linkAfter (withPrefix frame y) c
      unfold linkAfter
      simp only [hevent, if_neg hdhcp]

/-- A block copied to the return buffer is the frame's own exactly when it ends inside
the frame, or the frame fills the buffer. -/
theorem dependsOn_block (hfits : frame.length ≤ cc300SpiRxBufferSize) (buffer : Mem)
    {offset : ℕ} (hoffset : offset ≤ frame.length) (size : ℕ) :
    DependsOn (fun stale =>
        overlay (fun i => withPrefix frame stale (i + offset)) size buffer) outside ↔
      frame.length = cc300SpiRxBufferSize ∨ offset + size ≤ frame.length := by
  constructor
  · intro hdep
    by_contra hnot
    simp only [not_or, Nat.not_le] at hnot
    obtain ⟨hfull, hpast⟩ := hnot
    have hsame : overlay (fun i => withPrefix frame (fun _ => 0) (i + offset)) size buffer =
        overlay (fun i => withPrefix frame (bump frame.length) (i + offset)) size buffer :=
      hdep (bump_outside (by omega))
    have hat := congrFun hsame (frame.length - offset)
    have hend : frame.length - offset + offset = frame.length := by omega
    rw [overlay_lt _ _ (by omega), overlay_lt _ _ (by omega), hend,
      withPrefix_ge (Nat.le_refl _), withPrefix_ge (Nat.le_refl _), bump, if_pos rfl] at hat
    exact absurd hat (by decide)
  · intro hown x y hxy
    change overlay (fun i => withPrefix frame x (i + offset)) size buffer =
      overlay (fun i => withPrefix frame y (i + offset)) size buffer
    rcases hown with hfull | hend
    · rw [withPrefix_full hfull hxy]
    · funext i
      by_cases hi : i < size
      · rw [overlay_lt _ _ hi, overlay_lt _ _ hi]
        exact withPrefix_lt (by omega) x y
      · rw [overlay_ge _ _ (Nat.not_lt.mp hi), overlay_ge _ _ (Nat.not_lt.mp hi)]

theorem copyBlock_withPrefix (h : 5 ≤ frame.length) (stale : Mem) :
    copyBlock (withPrefix frame stale) = copyBlock (shown frame) := by
  have hheader := header_withPrefix h stale
  rw [copyBlock, copyBlock, hheader 0 (by omega), hheader 1 (by omega), hheader 2 (by omega),
    hheader 3 (by omega)]

/-- The arguments of an event are counted by the length it declares; the copy of a data
frame counts the argument size a second time. -/
theorem dependsOn_copy (h : WellFormed frame) (buffer : Mem) :
    DependsOn (fun stale => copyReturn (withPrefix frame stale) buffer) outside ↔
      (shown frame 0 = hciTypeData → (shown frame 1).setWidth 16 = hciDataRecv →
        frame.length = cc300SpiRxBufferSize ∨
          2 + (shown frame 3 + shown frame 2).toNat ≤ frame.length) := by
  obtain ⟨hshort, hfits, hdeclared, -⟩ := h
  have hne : hciTypeData ≠ hciTypeEvent := by decide
  unfold copyReturn
  simp only [copyBlock_withPrefix hshort]
  by_cases hevent : shown frame 0 = hciTypeEvent
  · have hnot : shown frame 0 ≠ hciTypeData := fun hdata => hne (hdata.symm.trans hevent)
    have hargs : 5 + (shown frame 3).toNat ≤ frame.length := by
      rw [declaredLength, toNat_word16] at hdeclared
      omega
    simp only [hnot, false_implies, iff_true]
    by_cases hnormal : NormalEvent (word16 (shown frame 2) (shown frame 1))
    · simp only [copyBlock, if_pos hevent, if_pos hnormal]
      exact (dependsOn_block hfits buffer hshort _).mpr (Or.inr hargs)
    · simp only [copyBlock, if_pos hevent, if_neg hnormal]
      exact fun _ _ _ => rfl
  · by_cases hdata : shown frame 0 = hciTypeData ∧ (shown frame 1).setWidth 16 = hciDataRecv
    · simp only [copyBlock, hdata, hne, if_false, if_true, and_self, true_implies]
      exact dependsOn_block hfits buffer (by omega) _
    · simp only [copyBlock, if_neg hevent, if_neg hdata]
      constructor
      · exact fun _ htype hop => absurd ⟨htype, hop⟩ hdata
      · exact fun _ _ _ _ => rfl

/-- The state after the frame is the frame's own when each of its parts is. -/
theorem dependsOn_handle (h : WellFormed frame) (s : State) :
    DependsOn (fun stale => handle (withPrefix frame stale) s) outside ↔
      DependsOn (fun stale => credits (withPrefix frame stale)) outside ∧
      DependsOn (fun stale => linkAfter (withPrefix frame stale) s.state) outside ∧
      DependsOn (fun stale => copyReturn (withPrefix frame stale) s.returnBuffer) outside := by
  obtain ⟨hshort, -, -, -⟩ := h
  constructor
  · intro hdep
    have hsame : ∀ x y : Mem, (∀ i ∈ outside, x i = y i) →
        handle (withPrefix frame x) s = handle (withPrefix frame y) s :=
      fun x y hxy => hdep hxy
    refine ⟨fun x y hxy => ?_, fun x y hxy => ?_, fun x y hxy => ?_⟩
    · have hfree := congrArg State.freeBuffers (hsame x y hxy)
      rw [handle_freeBuffers, handle_freeBuffers] at hfree
      exact (BitVec.add_right_inj s.freeBuffers).mp hfree
    · have hlink := congrArg State.state (hsame x y hxy)
      rwa [handle_state, handle_state] at hlink
    · have hcopy := congrArg State.returnBuffer (hsame x y hxy)
      rwa [handle_returnBuffer, handle_returnBuffer] at hcopy
  · rintro ⟨hcredits, hlink, hcopy⟩ x y hxy
    have hcreditsEq : credits (withPrefix frame x) = credits (withPrefix frame y) :=
      hcredits hxy
    have hlinkEq : linkAfter (withPrefix frame x) s.state =
        linkAfter (withPrefix frame y) s.state := hlink hxy
    have hcopyEq : copyReturn (withPrefix frame x) s.returnBuffer =
        copyReturn (withPrefix frame y) s.returnBuffer := hcopy hxy
    have hclose : closeAfter (withPrefix frame x) s.closeSocket =
        closeAfter (withPrefix frame y) s.closeSocket := by
      unfold closeAfter
      simp only [isEvent_withPrefix hshort]
    change handle (withPrefix frame x) s = handle (withPrefix frame y) s
    rw [handle_eq, handle_eq, frameOpcode_withPrefix hshort x, frameOpcode_withPrefix hshort y,
      hcreditsEq, hlinkEq, hcopyEq, hclose]

end Frame

/-- For every well-formed frame and every driver state: no byte left by earlier traffic
reaches the state exactly when all that the handler reads lies inside the frame. -/
theorem noInfluence_iff (frame : List Byte) (h : WellFormed frame) (later : Mem) (s : State) :
    DependsOn (received frame later s) outside ↔ SelfContained frame := by
  have hreceived : received frame later s =
      fun stale => handle (withPrefix frame stale) s.globals :=
    funext fun stale => received_eq h.header h.fits later s stale
  rw [hreceived, dependsOn_handle h, dependsOn_credits h, dependsOn_link h, dependsOn_copy h]
  constructor
  · rintro ⟨hfree, haddress, hdata⟩
    exact ⟨hfree, haddress, hdata⟩
  · rintro ⟨hfree, haddress, hdata⟩
    exact ⟨hfree, haddress, hdata⟩

def socketFrame : List Byte := [0x04, 0x01, 0x10, 0x04, 0x00, 0x03, 0x00, 0x00, 0x00]

theorem noInfluence_socketFrame :
    WellFormed socketFrame ∧
      DependsOn (received socketFrame (fun _ => 0) (initial fun _ => 0)) outside := by
  have h : WellFormed socketFrame := ⟨by decide, by decide, by decide, Or.inl (by decide)⟩
  have hself : SelfContained socketFrame := by constructor <;> decide
  exact ⟨h, (noInfluence_iff socketFrame h _ _).mpr hself⟩

/-- A data frame of four argument bytes and one payload byte, ten bytes in all, of which
the copy takes bytes 2 to 10. -/
def shortData : List Byte := [0x02, 0x85, 4, 5, 0, 8, 0, 0, 0, 0x41]

theorem influence_shortData :
    WellFormed shortData ∧
      ¬ DependsOn (received shortData (fun _ => 0) (initial fun _ => 0)) outside := by
  have h : WellFormed shortData :=
    ⟨by decide, by decide, by decide, Or.inr (by decide)⟩
  refine ⟨h, fun hdep => ?_⟩
  have hreceived : received shortData (fun _ => 0) (initial fun _ => 0) =
      fun stale => handle (withPrefix shortData stale) (initial fun _ => 0).globals :=
    funext fun stale => received_eq h.header h.fits _ _ stale
  rw [hreceived, dependsOn_handle h, dependsOn_copy h] at hdep
  rcases hdep.2.2 (by decide) (by decide) with hfull | hend
  · exact absurd hfull (by decide)
  · exact absurd hend (by decide)

end Cc3000Async.StaleBytes
