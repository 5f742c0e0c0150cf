import Cc3000Async.LabelledRuns
import Cc3000Async.Requests

/-!
The connection and the address as the main loop sees them. The device announces an
address only within a connection, so whether it may do so is kept beside the driver's
own flags; of these, the end of a connection takes back one and forgets the other.
-/
namespace Cc3000Async.ConnectionFlags

open ByteMemory LabelledRuns Opcodes DriverState EventHandler Requests

/-- The driver, and whether the device has reported a connection and not yet its end. -/
structure Session where
  driver : State
  linked : Bool

def linkedAfter (data : Mem) (linked : Bool) : Bool :=
  if IsEvent data hciEvntWlanUnsolConnect then true
  else if IsEvent data hciEvntWlanUnsolDisconnect then false
  else linked

/-- The device sends any frame, but an address only within a connection. -/
def step (c : Session) (data : Mem) : Option Session :=
  if IsEvent data hciEvntWlanUnsolDhcp ∧ c.linked = false then none
  else some { driver := handle data c.driver, linked := linkedAfter data c.linked }

def started (s : State) (patchesRequest : Byte) : Session :=
  { driver := (cc3000Start patchesRequest).exec s, linked := false }

/-- What the main loop takes for granted when it opens a socket. -/
def AddressConnected (c : Session) : Prop :=
  c.driver.state.dhcpComplete = 1 → c.driver.state.connected = 1

/-- The condition on a frame: it does not end a connection that has brought an address. -/
def KeepsAddress (c : Session) (data : Mem) (_ : Session) : Prop :=
  IsEvent data hciEvntWlanUnsolDisconnect → c.driver.state.dhcpComplete ≠ 1

/-- The flag of the driver follows the device, and the address has its connection. -/
structure Consistent (c : Session) : Prop where
  linked : c.linked = true ↔ c.driver.state.connected = 1
  address : AddressConnected c

theorem cleared_ne_set : (0 : Byte) ≠ 1 := by decide

theorem consistent_started (s : State) (patchesRequest : Byte) :
    Consistent (started s patchesRequest) := by
  constructor
  · exact ⟨fun h => absurd h Bool.false_ne_true, fun h => absurd h cleared_ne_set⟩
  · exact fun h => absurd h cleared_ne_set

theorem step_cases {c d : Session} {data : Mem} (h : Takes step c data d) :
    (IsEvent data hciEvntWlanUnsolConnect ∧ d.linked = true ∧
      d.driver.state = { c.driver.state with connected := 1 }) ∨
    (IsEvent data hciEvntWlanUnsolDisconnect ∧ d.linked = false ∧
      d.driver.state = { c.driver.state with connected := 0 }) ∨
    (IsEvent data hciEvntWlanUnsolDhcp ∧ c.linked = true ∧ d.linked = c.linked ∧
      d.driver.state =
        { c.driver.state with
          ip := ![data 5, data 6, data 7, data 8], dhcpComplete := 1 }) ∨
    (¬ IsEvent data hciEvntWlanUnsolDisconnect ∧ d.linked = c.linked ∧
      d.driver.state = c.driver.state) := by
  unfold Takes step at h
  split_ifs at h with hallowed
  have hd := Option.some.inj h
  subst hd
  simp only [handle_state, linkedAfter]
  obtain ⟨hevent, hlink⟩ | ⟨hevent, hlink⟩ | ⟨hevent, hlink⟩ | ⟨hconnect, hdisconnect, -, hlink⟩ :=
    linkAfter_cases data c.driver.state
  · exact Or.inl ⟨hevent, if_pos hevent, hlink⟩
  · have hconnect : ¬ IsEvent data hciEvntWlanUnsolConnect := fun hyes =>
      absurd (isEvent_unique hyes hevent) (by decide)
    exact Or.inr (Or.inl ⟨hevent, by rw [if_neg hconnect, if_pos hevent], hlink⟩)
  · have hconnect : ¬ IsEvent data hciEvntWlanUnsolConnect := fun hyes =>
      absurd (isEvent_unique hyes hevent) (by decide)
    have hdisconnect : ¬ IsEvent data hciEvntWlanUnsolDisconnect := fun hyes =>
      absurd (isEvent_unique hyes hevent) (by decide)
    have hlinked : c.linked = true := by
      simpa [hevent] using hallowed
    exact Or.inr (Or.inr (Or.inl
      ⟨hevent, hlinked, by rw [if_neg hconnect, if_neg hdisconnect], hlink⟩))
  · exact Or.inr (Or.inr (Or.inr
      ⟨hdisconnect, by rw [if_neg hconnect, if_neg hdisconnect], hlink⟩))

/-- From a consistent session, the address keeps its connection exactly when the frame
does not end it. -/
theorem addressConnected_iff {c d : Session} {data : Mem} (hc : Consistent c)
    (h : Takes step c data d) : AddressConnected d ↔ KeepsAddress c data d := by
  unfold AddressConnected KeepsAddress
  obtain ⟨hevent, -, hstate⟩ | ⟨hevent, -, hstate⟩ | ⟨hevent, hlinked, -, hstate⟩ |
    ⟨hevent, -, hstate⟩ := step_cases h
  · rw [hstate]
    exact ⟨fun _ hyes => absurd (isEvent_unique hevent hyes) (by decide), fun _ _ => rfl⟩
  · rw [hstate]
    constructor
    · intro haddress _ hdhcp
      exact absurd (haddress hdhcp) cleared_ne_set
    · intro hkeeps hdhcp
      exact absurd hdhcp (hkeeps hevent)
  · rw [hstate]
    exact ⟨fun _ hyes => absurd (isEvent_unique hevent hyes) (by decide),
      fun _ _ => hc.linked.mp hlinked⟩
  · rw [hstate]
    exact ⟨fun _ hyes => absurd hyes hevent, fun _ => hc.address⟩

theorem consistent_step {c d : Session} {data : Mem} (hc : Consistent c)
    (h : Takes step c data d) (haddress : AddressConnected d) : Consistent d := by
  refine ⟨?_, haddress⟩
  obtain ⟨-, hlinked, hstate⟩ | ⟨-, hlinked, hstate⟩ | ⟨-, -, hlinked, hstate⟩ |
    ⟨-, hlinked, hstate⟩ := step_cases h
  · rw [hlinked, hstate]
    exact ⟨fun _ => rfl, fun _ => rfl⟩
  · rw [hlinked, hstate]
    exact ⟨fun h => absurd h Bool.false_ne_true, fun h => absurd h cleared_ne_set⟩
  · rw [hlinked, hstate]
    exact hc.linked
  · rw [hlinked, hstate]
    exact hc.linked

/-- For every sequence of frames after a start: in every state reached an address implies
a connection exactly when no frame ends a connection that has brought an address. -/
theorem address_implies_connected_iff (s : State) (patchesRequest : Byte)
    (frames : List Mem) :
    (∀ sent c, sent <+: frames → Run (Takes step) (started s patchesRequest) sent c →
      AddressConnected c) ↔
    Along (Takes step) KeepsAddress (started s patchesRequest) frames := by
  have hstart := consistent_started s patchesRequest
  rw [← along_iff_run hstart.address]
  apply along_iff (I := Consistent)
  · exact fun _ _ _ hc hstep => addressConnected_iff hc hstep
  · exact fun _ _ _ hc hstep haddress => consistent_step hc hstep haddress
  · exact hstart

def lostConnection : List Mem :=
  [fun i => [0x04, 0x01, 0x80].getD i 0, fun i => [0x04, 0x10, 0x80].getD i 0,
    fun i => [0x04, 0x02, 0x80].getD i 0]

theorem address_without_connection :
    ∃ c, Run (Takes step) (started (initial fun _ => 0) 0) lostConnection c ∧
      ¬ AddressConnected c := by
  refine ⟨_, Run.cons rfl (Run.cons rfl (Run.cons rfl (Run.nil _))), fun h => ?_⟩
  exact absurd (h rfl) (by decide)

end Cc3000Async.ConnectionFlags
