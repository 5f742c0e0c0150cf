import Cc3000Async.LabelledRuns
import Cc3000Async.RecordTables
import Cc3000Async.DeviceFrames
import Cc3000Async.SocketOperations

/-!
The free-buffer counter against a ledger of packets. Sends take a buffer, events of
the device give buffers back; the ledger counts both. The event's table has entries
of four bytes while the loop that sums it advances by two, so the counter follows
the ledger exactly as long as the bytes it meets add up to the credits it should
have met.
-/
namespace Cc3000Async.SendCredits

open ByteMemory RecordTables LabelledRuns Opcodes DriverState EventHandler DeviceFrames
open SocketOperations

/-- An entry of the free-buffer event: a socket handle and its number of freed buffers. -/
structure Entry where
  handle : BitVec 16
  freed : BitVec 16

def wordBytes (w : BitVec 16) : List Byte := [w.setWidth 8, (w >>> 8).setWidth 8]

def entryBytes (e : Entry) : List Byte := wordBytes e.handle ++ wordBytes e.freed

def freeBuffArgs (entries : List Entry) : List Byte :=
  wordBytes (BitVec.ofNat 16 entries.length) ++ entries.flatMap entryBytes

/-- The free-buffer event, over whatever the receive buffer held before. -/
def freeBuffData (entries : List Entry) (stale : Mem) : Mem :=
  withPrefix (eventFrame hciEvntDataUnsolFreeBuff (freeBuffArgs entries)) stale

def totalFreed (entries : List Entry) : ℕ := (entries.map fun e => e.freed.toNat).sum

/-- The globals with the number of packets sent and of packets freed so far. -/
structure Ledger where
  st : State
  sent : ℕ
  freed : ℕ

def Ledger.inFlight (s : Ledger) : ℕ := s.sent - s.freed

inductive Label
  | send (sd : Byte) (buf : Mem) (len : BitVec 16) (flags : Byte)
  | event (entries : List Entry) (stale : Mem)

/-- A send counts when it succeeds; an event fits the receive buffer and frees no more
packets than are in flight. -/
def step (s : Ledger) : Label → Option Ledger
  | .send sd buf len flags =>
      let r := cc3000Send sd buf len flags s.st
      some ⟨r.2, if r.1 = 1 then s.sent + 1 else s.sent, s.freed⟩
  | .event entries stale =>
      if (eventFrame hciEvntDataUnsolFreeBuff (freeBuffArgs entries)).length ≤
          cc300SpiRxBufferSize ∧ totalFreed entries ≤ s.inFlight then
        some ⟨handle (freeBuffData entries stale) s.st, s.sent, s.freed + totalFreed entries⟩
      else none

/-- The counter and the packets in flight make up the number of buffers. -/
structure Balanced (buffers : ℕ) (s : Ledger) : Prop where
  freed_le : s.freed ≤ s.sent
  total : s.st.freeBuffers.toNat + s.inFlight = buffers

/-- What a step owes to the ledger: the balance is kept, the counter changes by exactly
the packets sent and freed, and a send is refused exactly when all buffers are in
flight. -/
structure Conserves (buffers : ℕ) (s : Ledger) (l : Label) (t : Ledger) : Prop where
  balanced : Balanced buffers t
  noWrap : t.st.freeBuffers.toNat + t.sent + s.freed =
    s.st.freeBuffers.toNat + s.sent + t.freed
  refused : ∀ sd buf len flags, l = .send sd buf len flags →
    ((cc3000Send sd buf len flags s.st).1 = -2 ↔ s.inFlight = buffers)

/-- Over the table, the loop meets the freed counts of the first half of the entries and
the handles of the entries after the first; it should have met all the counts. -/
def Tallies (entries : List Entry) : Prop :=
  (((entries.drop 1).take (entries.length / 2)).map fun e => e.handle.toNat).sum % 256 =
    ((entries.drop ((entries.length + 1) / 2)).map fun e => e.freed.toNat).sum % 256

def StepTallies (_ : Ledger) (l : Label) (_ : Ledger) : Prop :=
  ∀ entries stale, l = .event entries stale → Tallies entries

theorem creditSum_eq (data : Mem) (n : ℕ) :
    creditSum data n = BitVec.ofNat 8 (stridedSum data 9 2 n) := by
  induction n with
  | zero => rfl
  | succ n ih =>
    have hat : 5 + 2 + 2 + n * 2 = 9 + 2 * n := by omega
    rw [creditSum, ih, stridedSum_succ, hat, BitVec.ofNat_add, BitVec.ofNat_toNat,
      BitVec.setWidth_eq]

theorem entryBytes_length (e : Entry) : (entryBytes e).length = 4 := rfl

theorem toNat_low (w : BitVec 16) : (w.setWidth 8).toNat % 256 = w.toNat % 256 := by
  rw [BitVec.toNat_setWidth]
  omega

section Event

variable {entries : List Entry} {data : Mem}

theorem freeBuffArgs_length (entries : List Entry) :
    (freeBuffArgs entries).length = 2 + 4 * entries.length := by
  have htable : (entries.flatMap entryBytes).length = 4 * entries.length := by
    induction entries with
    | nil => rfl
    | cons e entries ih =>
      rw [List.flatMap_cons, List.length_append, entryBytes_length, ih, List.length_cons]
      omega
  rw [freeBuffArgs, List.length_append, htable]
  rfl

theorem eventFrame_length (entries : List Entry) :
    (eventFrame hciEvntDataUnsolFreeBuff (freeBuffArgs entries)).length =
      7 + 4 * entries.length := by
  rw [eventFrame, List.length_append, freeBuffArgs_length]
  simp only [List.length_cons, List.length_nil]
  omega

theorem table_holds
    (h : Holds data 0 (eventFrame hciEvntDataUnsolFreeBuff (freeBuffArgs entries)))
    (hlen : entries.length < 256) :
    (data 5).toNat = entries.length ∧ Holds data 7 (entries.flatMap entryBytes) := by
  have hargs := event_args h
  constructor
  · have hcount := hargs 0 (by simp [freeBuffArgs, wordBytes])
    change data 5 = (BitVec.ofNat 16 entries.length).setWidth 8 at hcount
    rw [hcount, BitVec.toNat_setWidth, BitVec.toNat_ofNat]
    omega
  · exact hargs.append_right

theorem handles_met (h : Holds data 7 (entries.flatMap entryBytes)) :
    stridedSum data 11 4 (entries.length / 2) =
      (((entries.drop 1).take (entries.length / 2)).map fun e =>
        (e.handle.setWidth 8).toNat).sum := by
  cases entries with
  | nil => rfl
  | cons e entries =>
    rw [List.flatMap_cons] at h
    have hrest := h.append_right
    rw [entryBytes_length] at hrest
    have hsum := stridedSum_field entryBytes_length hrest 0 (by omega)
      ((e :: entries).length / 2) (by rw [List.length_cons]; omega)
    exact hsum

/-- What the loop adds: the counts of the first half and the handles after the first. -/
theorem toNat_credits
    (h : Holds data 0 (eventFrame hciEvntDataUnsolFreeBuff (freeBuffArgs entries)))
    (hlen : entries.length < 256) :
    (credits data).toNat =
      (((entries.take ((entries.length + 1) / 2)).map fun e => e.freed.toNat).sum +
        (((entries.drop 1).take (entries.length / 2)).map fun e => e.handle.toNat).sum) %
          256 := by
  obtain ⟨htype, hop, -⟩ := event_header h
  obtain ⟨hcount, htable⟩ := table_holds h hlen
  have hcounts : stridedSum data 9 4 ((entries.length + 1) / 2) = _ :=
    stridedSum_field entryBytes_length htable 2 (by omega) _ (by omega)
  have hfreed := sum_map_mod (fun e : Entry => ((entryBytes e).getD 2 0).toNat)
    (fun e => e.freed.toNat) 256 (fun e => toNat_low e.freed)
    (entries.take ((entries.length + 1) / 2))
  have hhandle := sum_map_mod (fun e : Entry => (e.handle.setWidth 8).toNat)
    (fun e => e.handle.toNat) 256 (fun e => toNat_low e.handle)
    ((entries.drop 1).take (entries.length / 2))
  rw [← handles_met htable] at hhandle
  rw [← hcounts] at hfreed
  have hsum : (credits data).toNat = stridedSum data 9 2 entries.length % 256 := by
    rw [credits, if_pos ⟨htype, hop⟩, hcount, creditSum_eq, BitVec.toNat_ofNat]
  have hparity : stridedSum data 9 2 entries.length =
      stridedSum data 9 4 ((entries.length + 1) / 2) +
        stridedSum data 11 4 (entries.length / 2) := stridedSum_parity data 9 2 _
  rw [hsum, hparity]
  omega

theorem totalFreed_split (entries : List Entry) (n : ℕ) :
    totalFreed entries = ((entries.take n).map fun e => e.freed.toNat).sum +
      ((entries.drop n).map fun e => e.freed.toNat).sum := by
  unfold totalFreed
  rw [← List.sum_append, ← List.map_append, List.take_append_drop]

/-- An event whose credits fit a byte adds exactly them precisely when it tallies. -/
theorem credits_exact_iff
    (h : Holds data 0 (eventFrame hciEvntDataUnsolFreeBuff (freeBuffArgs entries)))
    (hlen : entries.length < 256) (free : Byte)
    (hfit : free.toNat + totalFreed entries < 256) :
    (free + credits data).toNat = free.toNat + totalFreed entries ↔ Tallies entries := by
  have hcredits := toNat_credits h hlen
  have hsplit := totalFreed_split entries ((entries.length + 1) / 2)
  unfold Tallies
  rw [BitVec.toNat_add, hcredits]
  omega

end Event

theorem takes_send (s : Ledger) (sd : Byte) (buf : Mem) (len : BitVec 16) (flags : Byte) :
    Takes step s (.send sd buf len flags)
      ⟨(cc3000Send sd buf len flags s.st).2,
        if (cc3000Send sd buf len flags s.st).1 = 1 then s.sent + 1 else s.sent, s.freed⟩ := rfl

theorem cc3000Send_cases (sd : Byte) (buf : Mem) (len : BitVec 16) (flags : Byte) (s : State) :
    (s.freeBuffers = 0#8 ∧ cc3000Send sd buf len flags s = (-2, s)) ∨
    (s.freeBuffers ≠ 0#8 ∧ (cc3000Send sd buf len flags s).1 = 1 ∧
      (cc3000Send sd buf len flags s).2.freeBuffers = s.freeBuffers - 1) := by
  unfold cc3000Send
  by_cases hfree : s.freeBuffers = 0#8
  · exact Or.inl ⟨hfree, if_pos hfree⟩
  · refine Or.inr ⟨hfree, ?_, ?_⟩
    · rw [if_neg hfree]
    · rw [if_neg hfree]
      exact (Prog.exec_received _ _).2.2

theorem conserves_send {buffers : ℕ} {s t : Ledger} {sd : Byte} {buf : Mem} {len : BitVec 16}
    {flags : Byte} (hs : Balanced buffers s)
    (hstep : Takes step s (.send sd buf len flags) t) :
    Conserves buffers s (.send sd buf len flags) t := by
  obtain ⟨hle, htotal⟩ := hs
  have heq := Option.some.inj ((takes_send s sd buf len flags).symm.trans hstep)
  subst heq
  unfold Ledger.inFlight at htotal
  rcases cc3000Send_cases sd buf len flags s.st with ⟨hzero, hres⟩ | ⟨hne, hres, hfree⟩
  · have hnat : s.st.freeBuffers.toNat = 0 := by
      rw [hzero]
      rfl
    rw [hres]
    refine ⟨⟨hle, htotal⟩, rfl, ?_⟩
    intro sd' buf' len' flags' hl
    cases hl
    rw [hres]
    unfold Ledger.inFlight
    constructor
    · intro _
      omega
    · intro _
      rfl
  · have hnat : s.st.freeBuffers.toNat ≠ 0 := by
      intro h
      exact hne (BitVec.eq_of_toNat_eq h)
    have hpred : (s.st.freeBuffers - 1).toNat = s.st.freeBuffers.toNat - 1 := by
      have hlt := s.st.freeBuffers.isLt
      rw [BitVec.toNat_sub]
      change (2 ^ 8 - 1 + s.st.freeBuffers.toNat) % 2 ^ 8 = _
      omega
    rw [if_pos hres]
    refine ⟨⟨Nat.le_succ_of_le hle, ?_⟩, ?_, ?_⟩
    · unfold Ledger.inFlight
      simp only
      rw [hfree, hpred]
      omega
    · simp only
      rw [hfree, hpred]
      omega
    · intro sd' buf' len' flags' hl
      cases hl
      rw [hres]
      unfold Ledger.inFlight
      constructor
      · intro h
        exact absurd h (by decide)
      · intro h
        omega

theorem conserves_event {buffers : ℕ} (hbuffers : buffers < 256) {s t : Ledger}
    {entries : List Entry} {stale : Mem} (hs : Balanced buffers s)
    (hstep : Takes step s (.event entries stale) t) :
    Conserves buffers s (.event entries stale) t ↔ Tallies entries := by
  obtain ⟨hle, htotal⟩ := hs
  unfold Takes step at hstep
  simp only [Option.ite_none_right_eq_some, Option.some.injEq, eventFrame_length,
    cc300SpiRxBufferSize] at hstep
  obtain ⟨⟨hfits, hfreed⟩, rfl⟩ := hstep
  unfold Ledger.inFlight at htotal hfreed
  have hframe : Holds (freeBuffData entries stale) 0
      (eventFrame hciEvntDataUnsolFreeBuff (freeBuffArgs entries)) := holds_withPrefix _ stale
  have hexact := credits_exact_iff hframe (by omega) s.st.freeBuffers (by omega)
  rw [← hexact]
  constructor
  · intro h
    have hnow := h.noWrap
    simp only [handle_freeBuffers] at hnow
    omega
  · intro h
    refine ⟨⟨?_, ?_⟩, ?_, ?_⟩
    · simp only
      omega
    · unfold Ledger.inFlight
      simp only [handle_freeBuffers]
      omega
    · simp only [handle_freeBuffers]
      omega
    · intro sd buf len flags hl
      exact absurd hl (by simp)

/-- For every number of buffers and every run of sends and free-buffer events from a
state with all buffers free: the counter and the ledger agree in every state of the run
exactly when every event of the run tallies. -/
theorem conserves_iff (s : State) (ls : List Label) :
    Along (Takes step) (Conserves s.freeBuffers.toNat) ⟨s, 0, 0⟩ ls ↔
      Along (Takes step) StepTallies ⟨s, 0, 0⟩ ls := by
  apply along_iff (I := Balanced s.freeBuffers.toNat)
  · intro u l t hu hstep
    cases l with
    | send sd buf len flags =>
      have hconserves := conserves_send hu hstep
      exact ⟨fun _ _ _ hl => absurd hl (by simp), fun _ => hconserves⟩
    | event entries stale =>
      rw [conserves_event s.freeBuffers.isLt hu hstep]
      constructor
      · intro htallies entries' stale' hl
        cases hl
        exact htallies
      · intro h
        exact h entries stale rfl
  · intro u l t _ _ hconserves
    exact hconserves.balanced
  · exact ⟨Nat.le_refl 0, rfl⟩

/-- An event with a single entry always tallies. -/
theorem tallies_of_length_le_one (entries : List Entry) (h : entries.length ≤ 1) :
    Tallies entries := by
  have hhalf : entries.length / 2 = 0 := by omega
  have hdrop : entries.length ≤ (entries.length + 1) / 2 := by omega
  unfold Tallies
  rw [hhalf, List.take_zero, List.drop_eq_nil_of_le hdrop]
  rfl

def sixBuffers : State := { initial (fun _ => 0) with freeBuffers := 6 }

/-- Sockets 0 and 2 have one packet freed each: the loop reads the handle 2 for the
second count. -/
def twoEntries : List Entry := [⟨0, 1⟩, ⟨2, 1⟩]

/-- After two sends and an event that frees both, the counter shows seven buffers. -/
theorem credits_lost :
    sixBuffers.freeBuffers.toNat = 6 ∧
    ∃ ls t, Run (Takes step) ⟨sixBuffers, 0, 0⟩ ls t ∧ t.sent = 2 ∧ t.freed = 2 ∧
      t.st.freeBuffers.toNat + (t.sent - t.freed) = 7 := by
  refine ⟨rfl, [.send 0 (fun _ => 0) 1 0, .send 2 (fun _ => 0) 1 0,
    .event twoEntries fun _ => 0], _, Run.cons rfl (Run.cons rfl (Run.cons rfl (Run.nil _))),
    ?_, ?_, ?_⟩ <;> decide

end Cc3000Async.SendCredits
