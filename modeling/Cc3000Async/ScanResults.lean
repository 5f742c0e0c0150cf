import Cc3000Async.ReturnedValues

/-!
Scan results. The response is copied into a local array, as many bytes as the driver
reports for it, and taken apart there into the caller's entry. The reported size is no
function's to set, and the length of the name drives the reads and the writes unchecked.
-/
namespace Cc3000Async.ScanResults

open ByteMemory ByteBlocks Opcodes TracedAccess DriverState EventHandler DeviceFrames
open ReturnedValues

/-- An access to the driver's buffers, to the local array or to the name in the entry. -/
inductive ScanAccess
  | driver (access : Access)
  | wlanDataRead (index : ℕ)
  | wlanDataWrite (index : ℕ)
  | ssidWrite (index : ℕ)
  deriving DecidableEq, Repr

def wlanDataSize : ℕ := 50

def ssidSize : ℕ := 32 + 1

structure ApEntry where
  entryCount : Byte
  scanStatus : Byte
  entryValid : Byte
  rssi : Byte
  security : Byte
  ssid : Mem

def wlanRead (wlanData : Mem) (index : ℕ) : Traced ScanAccess Byte :=
  Traced.access (.wlanDataRead index) (wlanData index)

def storeSsid (index : ℕ) (byte : Byte) (apEntry : ApEntry) : Traced ScanAccess ApEntry :=
  Traced.access (.ssidWrite index)
    { apEntry with ssid := fun i => if i = index then byte else apEntry.ssid i }

/-- The call of `cc3000_get_return_stream`, with its destination the local array. -/
def streamToWlanData (s : State) (wlanData : Mem) (size : Byte) : Traced ScanAccess Mem :=
  Traced.countUp
    (fun count wlanData => do
      let byte ← Traced.relabel ScanAccess.driver (returned s (count + (0 : Byte).toNat))
      Traced.access (.wlanDataWrite count) fun i => if i = count then byte else wlanData i)
    size.toNat wlanData

def copySsid (wlanData : Mem) (ssidLength : Byte) (apEntry : ApEntry) :
    Traced ScanAccess ApEntry :=
  Traced.countUp
    (fun count apEntry => do
      let byte ← wlanRead wlanData (12 + count)
      storeSsid count byte apEntry)
    ssidLength.toNat apEntry

/-- What follows the copy. The validity is stored twice, and the counter of the loop is
the length when the terminator is stored. -/
def parseEntry (wlanData : Mem) (apEntry : ApEntry) : Traced ScanAccess ApEntry := do
  let entryCount ← wlanRead wlanData 0
  let apEntry := { apEntry with entryCount := entryCount }
  let scanStatus ← wlanRead wlanData 4
  let apEntry := { apEntry with scanStatus := scanStatus }
  let valid ← wlanRead wlanData 8
  let apEntry :=
    { apEntry with entryValid := if valid &&& 0b10000000#8 ≠ 0#8 then 1 else 0 }
  let valid ← wlanRead wlanData 8
  let apEntry := { apEntry with entryValid := valid >>> 6 }
  let rssi ← wlanRead wlanData 8
  let apEntry := { apEntry with rssi := rssi &&& 0b01111111#8 }
  let security ← wlanRead wlanData 9
  let apEntry := { apEntry with security := security >>> 6 }
  let length ← wlanRead wlanData 9
  let ssidLength := length &&& 0b00111111#8
  let apEntry ← copySsid wlanData ssidLength apEntry
  storeSsid (ssidLength.toNat + 1) 0 apEntry

/-- The local array and the entry start with any content. -/
def cc3000WlanGetScanResult (wlanData : Mem) (apEntry : ApEntry) (s : State) :
    Traced ScanAccess ApEntry := do
  let wlanData ← streamToWlanData s wlanData (getReturnSize s)
  parseEntry wlanData apEntry

theorem val_streamToWlanData (s : State) (wlanData : Mem) (size : Byte) :
    (streamToWlanData s wlanData size).val = (cc3000GetReturnStream s wlanData 0 size).val := by
  have hloop := Traced.val_countUp
    (fun count wlanData => do
      let byte ← Traced.relabel ScanAccess.driver (returned s (count + (0 : Byte).toNat))
      Traced.access (.wlanDataWrite count) fun i => if i = count then byte else wlanData i)
    (fun n => overlay (fun i => s.returnBuffer (i + (0 : Byte).toNat)) n wlanData)
    (fun i => by
      simp only [returned, Traced.val_bind, Traced.val_relabel, Traced.val_access]
      rw [← overlay_succ])
    size.toNat
  rw [overlay_zero] at hloop
  exact hloop.trans (val_cc3000GetReturnStream s wlanData 0 size).symm

/-- The array when the entry is taken from it: the return buffer as far as the reported
size, and past it what was there. -/
def wlanContent (s : State) (wlanData : Mem) : Mem :=
  overlay s.returnBuffer s.returnBufferSize.toNat wlanData

theorem val_streamToWlanData_size (s : State) (wlanData : Mem) :
    (streamToWlanData s wlanData (getReturnSize s)).val = wlanContent s wlanData := by
  rw [val_streamToWlanData, val_cc3000GetReturnStream]
  rfl

def ssidLength (wlanData : Mem) : ℕ := (wlanData 9 &&& 0b00111111#8).toNat

theorem val_wlanRead (wlanData : Mem) (index : ℕ) :
    (wlanRead wlanData index).val = wlanData index := rfl

theorem val_storeSsid (index : ℕ) (byte : Byte) (apEntry : ApEntry) :
    (storeSsid index byte apEntry).val =
      { apEntry with ssid := fun i => if i = index then byte else apEntry.ssid i } := rfl

theorem val_copySsid (wlanData : Mem) (ssidLength : Byte) (apEntry : ApEntry) :
    (copySsid wlanData ssidLength apEntry).val =
      { apEntry with
        ssid := overlay (fun i => wlanData (12 + i)) ssidLength.toNat apEntry.ssid } := by
  have hloop := Traced.val_countUp
    (fun count apEntry => do
      let byte ← wlanRead wlanData (12 + count)
      storeSsid count byte apEntry)
    (fun n => { apEntry with ssid := overlay (fun i => wlanData (12 + i)) n apEntry.ssid })
    (fun i => by
      simp only [Traced.val_bind, val_wlanRead, val_storeSsid]
      rw [← overlay_succ])
    ssidLength.toNat
  rw [overlay_zero] at hloop
  exact hloop

theorem val_parseEntry (wlanData : Mem) (apEntry : ApEntry) :
    (parseEntry wlanData apEntry).val =
      { entryCount := wlanData 0
        scanStatus := wlanData 4
        entryValid := wlanData 8 >>> 6
        rssi := wlanData 8 &&& 0b01111111#8
        security := wlanData 9 >>> 6
        ssid := fun i =>
          if i = ssidLength wlanData + 1 then 0
          else overlay (fun i => wlanData (12 + i)) (ssidLength wlanData) apEntry.ssid i } := by
  simp only [parseEntry, Traced.val_bind, val_wlanRead, val_copySsid, val_storeSsid]
  rfl

/-- The accesses of the parser: four places of the array, the name, and where the
terminator goes. -/
theorem all_parseEntry {p : ScanAccess → Prop} (wlanData : Mem) (apEntry : ApEntry) :
    Traced.All p (parseEntry wlanData apEntry) ↔
      (p (.wlanDataRead 0) ∧ p (.wlanDataRead 4) ∧ p (.wlanDataRead 8) ∧ p (.wlanDataRead 9)) ∧
      (∀ i, i < ssidLength wlanData → p (.wlanDataRead (12 + i)) ∧ p (.ssidWrite i)) ∧
      p (.ssidWrite (ssidLength wlanData + 1)) := by
  simp only [parseEntry, copySsid, Traced.all_bind, Traced.all_countUp, wlanRead, storeSsid,
    Traced.all_access, Traced.val_access]
  constructor
  · rintro ⟨h0, h4, h8, -, -, h9, -, hloop, hend⟩
    exact ⟨⟨h0, h4, h8, h9⟩, hloop, hend⟩
  · rintro ⟨⟨h0, h4, h8, h9⟩, hloop, hend⟩
    exact ⟨h0, h4, h8, h8, h8, h9, h9, hloop, hend⟩

theorem val_cc3000WlanGetScanResult (wlanData : Mem) (apEntry : ApEntry) (s : State) :
    (cc3000WlanGetScanResult wlanData apEntry s).val =
      (parseEntry (wlanContent s wlanData) apEntry).val := by
  rw [cc3000WlanGetScanResult, Traced.val_bind, val_streamToWlanData_size]

theorem all_streamToWlanData {p : ScanAccess → Prop} (s : State) (wlanData : Mem)
    (size : Byte) :
    Traced.All p (streamToWlanData s wlanData size) ↔
      ∀ i, i < size.toNat → p (.driver (.returnRead i)) ∧ p (.wlanDataWrite i) := by
  have hzero : (0 : Byte).toNat = 0 := rfl
  simp only [streamToWlanData, Traced.all_countUp, Traced.all_bind, Traced.all_relabel, returned,
    Traced.all_access, hzero, Nat.add_zero]

theorem all_cc3000WlanGetScanResult {p : ScanAccess → Prop} (wlanData : Mem)
    (apEntry : ApEntry) (s : State) :
    Traced.All p (cc3000WlanGetScanResult wlanData apEntry s) ↔
      Traced.All p (streamToWlanData s wlanData (getReturnSize s)) ∧
        Traced.All p (parseEntry (wlanContent s wlanData) apEntry) := by
  rw [cc3000WlanGetScanResult, Traced.all_bind, val_streamToWlanData_size]

theorem ssid_result (wlanData : Mem) (apEntry : ApEntry) (s : State) {i : ℕ}
    (hi : i < ssidLength (wlanContent s wlanData)) :
    (cc3000WlanGetScanResult wlanData apEntry s).val.ssid i = wlanContent s wlanData (12 + i) := by
  have hne : i ≠ ssidLength (wlanContent s wlanData) + 1 := by omega
  rw [val_cc3000WlanGetScanResult, val_parseEntry]
  change (if i = ssidLength (wlanContent s wlanData) + 1 then 0 else _) = _
  rw [if_neg hne, overlay_lt _ _ hi]

/-- Past the name and before the terminator the entry keeps what it had. -/
theorem ssid_result_end (wlanData : Mem) (apEntry : ApEntry) (s : State) :
    (cc3000WlanGetScanResult wlanData apEntry s).val.ssid (ssidLength (wlanContent s wlanData)) =
      apEntry.ssid (ssidLength (wlanContent s wlanData)) := by
  have hne : ssidLength (wlanContent s wlanData) ≠ ssidLength (wlanContent s wlanData) + 1 := by
    omega
  rw [val_cc3000WlanGetScanResult, val_parseEntry]
  change (if _ = ssidLength (wlanContent s wlanData) + 1 then 0 else _) = _
  rw [if_neg hne, overlay_ge _ _ (Nat.le_refl _)]

section Parser

/-- What the parser reads of the array and writes of the name is inside them. -/
def ParserInBounds : ScanAccess → Prop
  | .wlanDataRead index => index < wlanDataSize
  | .ssidWrite index => index < ssidSize
  | _ => True

/-- The entry made of the array: every access in bounds, the validity the top bit of its
byte, and the name a string of the received bytes, at most 32 of them. -/
structure ParsesSafely (wlanData : Mem) (result : Traced ScanAccess ApEntry) : Prop where
  inBounds : Traced.All ParserInBounds result
  entryValid : result.val.entryValid = if 128 ≤ (wlanData 8).toNat then 1 else 0
  ssid : ∀ i, i < min (ssidLength wlanData) 32 → result.val.ssid i = wlanData (12 + i)
  terminated : result.val.ssid (min (ssidLength wlanData) 32) = 0

theorem parserInBounds_iff (wlanData : Mem) (apEntry : ApEntry) (s : State) :
    Traced.All ParserInBounds (cc3000WlanGetScanResult wlanData apEntry s) ↔
      ssidLength (wlanContent s wlanData) < 32 := by
  rw [all_cc3000WlanGetScanResult, all_streamToWlanData, all_parseEntry]
  simp only [ParserInBounds, wlanDataSize, ssidSize]
  constructor
  · rintro ⟨-, -, -, hend⟩
    omega
  · intro h
    exact ⟨fun _ _ => ⟨trivial, trivial⟩, ⟨by omega, by omega, by omega, by omega⟩,
      fun i hi => ⟨by omega, by omega⟩, by omega⟩

/-- The two bits that are stored are the top bit only where both are clear. -/
theorem entryValid_iff (byte : Byte) :
    byte >>> 6 = (if 128 ≤ byte.toNat then 1 else 0) ↔ byte.toNat < 64 := by
  have hlt := byte.isLt
  have hshift : (byte >>> 6).toNat = byte.toNat / 64 := by
    rw [BitVec.toNat_ushiftRight, Nat.shiftRight_eq_div_pow]
  have hone : (1 : Byte).toNat = 1 := rfl
  have hzero : (0 : Byte).toNat = 0 := rfl
  rw [← BitVec.toNat_inj, hshift]
  split
  · rw [hone]
    omega
  · rw [hzero]
    omega

/-- For every content of the array and every earlier content of the entry: the parser is
safe exactly when both validity bits are clear, the name is shorter than 32 bytes and the
entry has a zero where its terminator belongs. -/
theorem parsesSafely_iff (wlanData : Mem) (apEntry : ApEntry) (s : State) :
    ParsesSafely (wlanContent s wlanData) (cc3000WlanGetScanResult wlanData apEntry s) ↔
      (wlanContent s wlanData 8).toNat < 64 ∧ ssidLength (wlanContent s wlanData) < 32 ∧
        apEntry.ssid (ssidLength (wlanContent s wlanData)) = 0 := by
  have hbounds := parserInBounds_iff wlanData apEntry s
  have hend := ssid_result_end wlanData apEntry s
  have hentry : (cc3000WlanGetScanResult wlanData apEntry s).val.entryValid =
      wlanContent s wlanData 8 >>> 6 := by
    rw [val_cc3000WlanGetScanResult, val_parseEntry]
  constructor
  · intro hsafe
    have hshort := hbounds.mp hsafe.inBounds
    have hvalid := hsafe.entryValid
    have hterminated := hsafe.terminated
    rw [hentry] at hvalid
    rw [Nat.min_eq_left (Nat.le_of_lt hshort), hend] at hterminated
    exact ⟨(entryValid_iff _).mp hvalid, hshort, hterminated⟩
  · rintro ⟨hbits, hshort, hzero⟩
    have hmin := Nat.min_eq_left (Nat.le_of_lt hshort)
    refine ⟨hbounds.mpr hshort, ?_, fun i hi => ?_, ?_⟩
    · rw [hentry]
      exact (entryValid_iff _).mpr hbits
    · rw [hmin] at hi
      exact ssid_result wlanData apEntry s hi
    · rw [hmin, hend]
      exact hzero

/-- A valid entry with the name "ab", and an entry to be filled. -/
def validEntry : Mem := fun i => [1, 0, 0, 0, 1, 0, 0, 0, 0xd0, 0xc2, 0, 0, 0x61, 0x62].getD i 0
def blankEntry : ApEntry := ⟨0, 0, 0, 0, 0, fun _ => 0⟩

/-- Its validity comes out as three. -/
theorem validEntry_notSafe :
    ¬ ParsesSafely (wlanContent (initial fun _ => 0) validEntry)
      (cc3000WlanGetScanResult validEntry blankEntry (initial fun _ => 0)) := by
  intro h
  have hvalid := h.entryValid
  rw [val_cc3000WlanGetScanResult, val_parseEntry] at hvalid
  exact absurd ((entryValid_iff _).mp hvalid) (by decide)

end Parser

section Response

def shownArgs (p : List Byte) : Mem := withPrefix p fun _ => 0

def CopyInBounds : ScanAccess → Prop
  | .wlanDataWrite index => index < wlanDataSize
  | _ => True

structure ShowsResponse (p : List Byte) (result : Traced ScanAccess ApEntry) : Prop where
  inBounds : Traced.All CopyInBounds result
  entryCount : result.val.entryCount = shownArgs p 0
  scanStatus : result.val.scanStatus = shownArgs p 4
  rssi : result.val.rssi = shownArgs p 8 &&& 0x7f#8
  security : result.val.security = shownArgs p 9 >>> 6
  ssid : ∀ i, i < ssidLength (shownArgs p) → result.val.ssid i = shownArgs p (12 + i)

/-- The size covers every byte that the entry is made of, and fits the array. -/
def SizeCovers (p : List Byte) (size : Byte) : Prop :=
  10 ≤ size.toNat ∧ (ssidLength (shownArgs p) = 0 ∨ 12 + ssidLength (shownArgs p) ≤ size.toNat) ∧
    size.toNat ≤ wlanDataSize

theorem copyInBounds_iff (wlanData : Mem) (apEntry : ApEntry) (s : State) :
    Traced.All CopyInBounds (cc3000WlanGetScanResult wlanData apEntry s) ↔
      s.returnBufferSize.toNat ≤ wlanDataSize := by
  rw [all_cc3000WlanGetScanResult, all_streamToWlanData, all_parseEntry]
  simp only [CopyInBounds, wlanDataSize, getReturnSize, true_and, and_true, and_self, implies_true]
  constructor
  · intro h
    by_contra hnot
    exact absurd (h 50 (by omega)) (Nat.lt_irrefl 50)
  · intro h i hi
    omega

/-- The reported size is the one the variable started with, whatever has been received. -/
theorem getReturnSize_handle (data : Mem) (s : State) :
    getReturnSize (handle data s) = s.returnBufferSize := by
  rw [getReturnSize, handle_eq]

/-- Every byte the other way round, so that no part of one agrees. -/
def flipped (p : List Byte) : Mem := fun i => ~~~ shownArgs p i

variable {p : List Byte} {data : Mem}

/-- The array shows the response as far as the size goes. -/
theorem wlanContent_handle (h : Holds data 0 (eventFrame hciCmndWlanIoctlGetScanResults p))
    (hlen : p.length ≤ 50) (s : State) (wlanData : Mem) {i : ℕ} (hi : i < p.length) :
    wlanContent (handle data s) wlanData i =
      if i < s.returnBufferSize.toNat then shownArgs p i else wlanData i := by
  have hargs := holds_returnBuffer h (by omega) (by decide) s
  have hsize : (handle data s).returnBufferSize = s.returnBufferSize :=
    getReturnSize_handle data s
  have hbyte : (handle data s).returnBuffer i = shownArgs p i := by
    rw [hargs.at_zero i hi]
    simp [shownArgs, withPrefix, hi]
  unfold wlanContent overlay
  rw [hsize, hbyte]

theorem wlanContent_copied (h : Holds data 0 (eventFrame hciCmndWlanIoctlGetScanResults p))
    (hlen : p.length ≤ 50) (s : State) (wlanData : Mem) {i : ℕ} (hi : i < p.length)
    (hcopied : i < s.returnBufferSize.toNat) :
    wlanContent (handle data s) wlanData i = shownArgs p i := by
  rw [wlanContent_handle h hlen s wlanData hi, if_pos hcopied]

theorem ssidLength_copied (h : Holds data 0 (eventFrame hciCmndWlanIoctlGetScanResults p))
    (hlen : p.length ≤ 50) (s : State) (wlanData : Mem) (hi : 9 < p.length)
    (hcopied : 9 < s.returnBufferSize.toNat) :
    ssidLength (wlanContent (handle data s) wlanData) = ssidLength (shownArgs p) := by
  rw [ssidLength, ssidLength, wlanContent_copied h hlen s wlanData hi hcopied]

theorem not_shiftRight_ne (byte : Byte) : (~~~byte) >>> 6 ≠ byte >>> 6 := by
  have hlt := byte.isLt
  intro heq
  have hnat := congrArg BitVec.toNat heq
  rw [BitVec.toNat_ushiftRight, BitVec.toNat_ushiftRight, Nat.shiftRight_eq_div_pow,
    Nat.shiftRight_eq_div_pow, BitVec.toNat_not] at hnat
  omega

theorem sizeCovers_of_shows (h : Holds data 0 (eventFrame hciCmndWlanIoctlGetScanResults p))
    (hfits : 12 + ssidLength (shownArgs p) ≤ p.length) (hlen : p.length ≤ 50) (s : State)
    (apEntry : ApEntry)
    (hshows : ShowsResponse p (cc3000WlanGetScanResult (flipped p) apEntry (handle data s))) :
    SizeCovers p s.returnBufferSize := by
  have hcontent : ∀ i, i < p.length → s.returnBufferSize.toNat ≤ i →
      wlanContent (handle data s) (flipped p) i = ~~~ shownArgs p i := by
    intro i hi hpast
    rw [wlanContent_handle h hlen s (flipped p) hi, if_neg (Nat.not_lt.mpr hpast), flipped]
  have hcopy := (copyInBounds_iff _ _ _).mp hshows.inBounds
  have hten : 10 ≤ s.returnBufferSize.toNat := by
    by_contra hnot
    have hsecurity := hshows.security
    rw [val_cc3000WlanGetScanResult, val_parseEntry] at hsecurity
    change wlanContent (handle data s) (flipped p) 9 >>> 6 = _ at hsecurity
    rw [hcontent 9 (by omega) (by omega)] at hsecurity
    exact not_shiftRight_ne _ hsecurity
  refine ⟨hten, ?_, ?_⟩
  · by_contra hnot
    obtain ⟨hname, hshort⟩ := not_or.mp hnot
    have hlength := ssidLength_copied h hlen s (flipped p) (by omega) (by omega)
    -- the last byte of the name is past the copy
    have hlast := hshows.ssid (ssidLength (shownArgs p) - 1) (by omega)
    rw [ssid_result _ _ _ (by omega), hcontent _ (by omega) (by omega)] at hlast
    exact absurd hlast (by simp)
  · rwa [handle_eq] at hcopy

theorem shows_of_sizeCovers (h : Holds data 0 (eventFrame hciCmndWlanIoctlGetScanResults p))
    (hfits : 12 + ssidLength (shownArgs p) ≤ p.length) (hlen : p.length ≤ 50) (s : State)
    (hcovers : SizeCovers p s.returnBufferSize) (wlanData : Mem) (apEntry : ApEntry) :
    ShowsResponse p (cc3000WlanGetScanResult wlanData apEntry (handle data s)) := by
  obtain ⟨hten, hname, hmax⟩ := hcovers
  have hcontent : ∀ i, i < p.length → i < s.returnBufferSize.toNat →
      wlanContent (handle data s) wlanData i = shownArgs p i := fun i hi hcopied =>
    wlanContent_copied h hlen s wlanData hi hcopied
  have hlength := ssidLength_copied h hlen s wlanData (by omega) (by omega)
  have hval := (val_cc3000WlanGetScanResult wlanData apEntry (handle data s)).trans
    (val_parseEntry _ apEntry)
  refine ⟨?_, ?_, ?_, ?_, ?_, fun i hi => ?_⟩
  · rw [copyInBounds_iff, handle_eq]
    exact hmax
  · rw [hval]
    exact hcontent 0 (by omega) (by omega)
  · rw [hval]
    exact hcontent 4 (by omega) (by omega)
  · rw [hval, ← hcontent 8 (by omega) (by omega)]
  · rw [hval, ← hcontent 9 (by omega) (by omega)]
  · rw [ssid_result _ _ _ (by omega)]
    exact hcontent (12 + i) (by omega) (by omega)

/-- For every response with its whole name, handled in any driver state: the entry shows
it, whatever was in the array and in the entry, exactly when the size that is reported,
which no reception changes, covers what the entry is made of. -/
theorem showsResponse_iff (p : List Byte) (data : Mem) (s : State)
    (h : Holds data 0 (eventFrame hciCmndWlanIoctlGetScanResults p))
    (hfits : 12 + ssidLength (shownArgs p) ≤ p.length) (hlen : p.length ≤ 50) :
    (∀ wlanData apEntry,
        ShowsResponse p (cc3000WlanGetScanResult wlanData apEntry (handle data s))) ↔
      SizeCovers p s.returnBufferSize := by
  constructor
  · intro hall
    exact sizeCovers_of_shows h hfits hlen s blankEntry (hall (flipped p) blankEntry)
  · exact fun hcovers wlanData apEntry =>
      shows_of_sizeCovers h hfits hlen s hcovers wlanData apEntry

def abcArgs : List Byte := [1, 0, 0, 0, 1, 0, 0, 0, 0x50, 0xc3, 0, 0, 0x61, 0x62, 0x63]

/-- It is shown where the size variable has been set to its length. -/
theorem showsResponse_abc :
    SizeCovers abcArgs 15 ∧ ∀ wlanData apEntry, ShowsResponse abcArgs
      (cc3000WlanGetScanResult wlanData apEntry
        (handle (withPrefix (eventFrame hciCmndWlanIoctlGetScanResults abcArgs) fun _ => 0)
          { initial fun _ => 0 with returnBufferSize := 15 })) := by
  have hcovers : SizeCovers abcArgs 15 := by
    unfold SizeCovers
    decide
  refine ⟨hcovers, ?_⟩
  exact (showsResponse_iff abcArgs _ _ (holds_withPrefix _ _) (by decide) (by decide)).mpr hcovers

/-- An aged result of an open network without a name. -/
def namelessArgs : List Byte := [1, 0, 0, 0, 0, 0, 0, 0, 0x50, 0, 0, 0]

/-- From the initial state the entry does not show it over an array of other bytes. -/
theorem nameless_notShown :
    ¬ ∀ wlanData apEntry, ShowsResponse namelessArgs
      (cc3000WlanGetScanResult wlanData apEntry
        (handle (withPrefix (eventFrame hciCmndWlanIoctlGetScanResults namelessArgs)
          fun _ => 0) (initial fun _ => 0))) := by
  intro hall
  have hcovers := sizeCovers_of_shows (holds_withPrefix _ _) (by decide) (by decide) _ blankEntry
    (hall (flipped namelessArgs) blankEntry)
  exact absurd hcovers.1 (by decide)

end Response

end Cc3000Async.ScanResults
