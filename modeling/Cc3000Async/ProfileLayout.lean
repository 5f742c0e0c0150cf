import Cc3000Async.ArgumentBlocks
import Cc3000Async.ArgumentLengths

/-!
The layouts of a profile's arguments, read back. The reader knows where the words stand
that all layouts share, and finds the SSID and the key only through the offsets in them;
a field sent wider than its layout has it moves everything behind it.
-/
namespace Cc3000Async.ProfileLayout

open ByteMemory ByteBlocks DriverState HciFrames SocketOperations WlanOperations
open ArgumentLengths ArgumentBlocks

/-- What a profile is made of, as the device is to learn it. -/
structure View where
  ssid : List Byte
  bssid : List Byte
  priority : ℕ
  key : List Byte
  deriving DecidableEq, Repr

/-- Where a layout has the offset of its key, and how many keys stand there, each of the
length in the word after the offset. It follows the priority, in the WPA layout after
three more words. -/
def keyWord (ulSecType : BitVec 32) : Option (ℕ × ℕ) :=
  if ulSecType = wlanSecUnsec then none
  else if ulSecType = wlanSecWep then some (20, 4)
  else some (32, 1)

def readKey (block : List Byte) : Option (ℕ × ℕ) → Option (List Byte)
  | none => some []
  | some (position, count) => do
    let keyOffset ← wordAt block position 4
    let keyLength ← wordAt block (position + 4) 4
    slice block (position + keyOffset) (count * keyLength)

/-- Follow the words of the block: the offset and length of the SSID, a 16-bit zero, the
BSSID and the priority right after it, and the key by its offset. -/
def readProfile (ulSecType : BitVec 32) (block : List Byte) : Option View := do
  let ssidOffset ← wordAt block 0 4
  let ssidLength ← wordAt block 4 4
  let ssid ← slice block ssidOffset ssidLength
  let reserved ← wordAt block 8 2
  let bssid ← slice block 10 6
  let priority ← wordAt block 16 4
  let key ← readKey block (keyWord ulSecType)
  if reserved = 0 then some { ssid, bssid, priority, key } else none

section Profile

variable (p : Profile)

/-- The key of a profile: none, the four WEP keys, or the passphrase. -/
def givenKey : List Byte :=
  if p.ulSecType = wlanSecUnsec then []
  else if p.ulSecType = wlanSecWep then
    bytesFrom p.ucPfOrKey (4 * p.ulPairwiseCipherOrTxKeyLen.toNat)
  else bytesFrom p.ucPfOrKey p.ulPassPhraseLen.toNat

def given : View where
  ssid := bytesFrom p.ucSsid p.ulSsidLen.toNat
  bssid := bytesFrom p.bssid 6
  priority := p.ulPriority.toNat
  key := givenKey p

def argumentTotal : ℕ :=
  if p.ulSecType = wlanSecUnsec then 20 + p.ulSsidLen.toNat
  else if p.ulSecType = wlanSecWep then
    34 + p.ulSsidLen.toNat + 4 * p.ulPairwiseCipherOrTxKeyLen.toNat
  else 40 + p.ulSsidLen.toNat + p.ulPassPhraseLen.toNat

def ReadsBack : Prop :=
  ∃ c, p.command = some c ∧ readProfile p.ulSecType (streamed c.calls) = some (given p)

def unsecFields : List (List Byte) :=
  [toBytes 4 0x14, toBytes 4 p.ulSsidLen.toNat, toBytes 2 0, bytesFrom p.bssid 6,
    toBytes 4 p.ulPriority.toNat, bytesFrom p.ucSsid p.ulSsidLen.toNat]

def wpaFields : List (List Byte) :=
  [toBytes 4 0x28, toBytes 4 p.ulSsidLen.toNat, toBytes 2 0, bytesFrom p.bssid 6,
    toBytes 4 p.ulPriority.toNat, toBytes 4 p.ulPairwiseCipherOrTxKeyLen.toNat,
    toBytes 4 p.ulGroupCipherTxKeyIndex.toNat, toBytes 4 p.ulKeyMgmt.toNat,
    toBytes 4 (8 + p.ulSsidLen.toNat), toBytes 4 p.ulPassPhraseLen.toNat,
    bytesFrom p.ucSsid p.ulSsidLen.toNat, bytesFrom p.ucPfOrKey p.ulPassPhraseLen.toNat]

end Profile

theorem toNat_narrow {u : BitVec 32} (h : u.toNat < 256) : (u.setWidth 8).toNat = u.toNat := by
  rw [BitVec.toNat_setWidth]
  exact Nat.mod_eq_of_lt h

theorem unsec_block (p : Profile) (h : p.ulSsidLen.toNat < 256) :
    streamed p.unsecCalls = (unsecFields p).flatten := by
  rw [streamed_eq_flatten]
  simp only [Profile.unsecCalls, List.map_cons, List.map_nil, fieldOf, toNat_narrow h]
  rfl

theorem wpa_block (p : Profile) (hssid : p.ulSsidLen.toNat < 256)
    (hkey : p.ulPassPhraseLen.toNat < 256) :
    streamed p.wpaCalls = (wpaFields p).flatten := by
  have hoffset : (0x00000008 + p.ulSsidLen).toNat = 8 + p.ulSsidLen.toNat := by
    have height : (0x00000008 : BitVec 32).toNat = 8 := rfl
    rw [BitVec.toNat_add, height]
    exact Nat.mod_eq_of_lt (by omega)
  rw [streamed_eq_flatten]
  simp only [Profile.wpaCalls, List.map_cons, List.map_nil, fieldOf, toNat_narrow hssid,
    toNat_narrow hkey, hoffset]
  rfl

theorem toNat_lt_word (u : BitVec 32) : u.toNat < 256 ^ 4 := u.isLt

/-- The fields that the layouts share, before those they do not. -/
def header (ssidOffset ssidLength : ℕ) (bssid : List Byte) (priority : ℕ)
    (rest : List (List Byte)) : List (List Byte) :=
  toBytes 4 ssidOffset :: toBytes 4 ssidLength :: toBytes 2 0 :: bssid ::
    toBytes 4 priority :: rest

theorem readProfile_header (ulSecType : BitVec 32) {ssidOffset ssidLength priority : ℕ}
    {ssid bssid key block : List Byte} {rest : List (List Byte)}
    (hblock : block = (header ssidOffset ssidLength bssid priority rest).flatten)
    (hoffset : ssidOffset < 256 ^ 4) (hlength : ssidLength < 256 ^ 4)
    (hpriority : priority < 256 ^ 4) (hbssid : bssid.length = 6)
    (hssid : slice block ssidOffset ssidLength = some ssid)
    (hkey : readKey block (keyWord ulSecType) = some key) :
    readProfile ulSecType block = some { ssid, bssid, priority, key } := by
  have hcount : (header ssidOffset ssidLength bssid priority rest).length =
      rest.length + 5 := rfl
  have hfour : offsetOf (header ssidOffset ssidLength bssid priority rest) 4 = 16 := by
    simp [header, offsetOf, hbssid]
  have hread0 : wordAt block 0 4 = some ssidOffset :=
    wordAt_of_fields hblock 0 (by omega) rfl hoffset
  have hread1 : wordAt block 4 4 = some ssidLength :=
    wordAt_of_fields hblock 1 (by omega) rfl hlength
  have hread2 : wordAt block 8 2 = some 0 :=
    wordAt_of_fields hblock 2 (by omega) rfl (by decide)
  have hread3 : slice block 10 6 = some bssid :=
    slice_of_fields hblock 3 (by omega) hbssid
  have hread4 := wordAt_of_fields hblock 4 (by omega) rfl hpriority
  rw [hfour] at hread4
  simp only [readProfile, hread0, hread1, hread2, hread3, hread4, hssid, hkey,
    Option.bind_eq_bind, Option.bind_some, if_true]

theorem readProfile_unsec (p : Profile) (htype : p.ulSecType = wlanSecUnsec)
    {block : List Byte} (hblock : block = (unsecFields p).flatten) :
    readProfile p.ulSecType block = some (given p) := by
  have hkeyWord : keyWord p.ulSecType = none := if_pos htype
  have hkey : givenKey p = [] := if_pos htype
  rw [given, hkey]
  refine readProfile_header p.ulSecType hblock (by decide) (toNat_lt_word _)
    (toNat_lt_word _) (length_bytesFrom _ _) ?_ ?_
  · exact slice_of_fields hblock 5 (Nat.lt_succ_self 5) (length_bytesFrom _ _)
  · rw [hkeyWord, readKey]

theorem readProfile_wpa (p : Profile) (hunsec : p.ulSecType ≠ wlanSecUnsec)
    (hwep : p.ulSecType ≠ wlanSecWep) (hssid : p.ulSsidLen.toNat < 256)
    {block : List Byte} (hblock : block = (wpaFields p).flatten) :
    readProfile p.ulSecType block = some (given p) := by
  have hkeyWord : keyWord p.ulSecType = some (32, 1) := by
    rw [keyWord, if_neg hunsec, if_neg hwep]
  have hkey : givenKey p = bytesFrom p.ucPfOrKey p.ulPassPhraseLen.toNat := by
    rw [givenKey, if_neg hunsec, if_neg hwep]
  have hcount : (wpaFields p).length = 12 := rfl
  have hstarts : offsetOf (wpaFields p) 8 = 32 ∧ offsetOf (wpaFields p) 9 = 36 ∧
      offsetOf (wpaFields p) 10 = 40 ∧
      offsetOf (wpaFields p) 11 = 32 + (8 + p.ulSsidLen.toNat) := by
    simp only [wpaFields, offsetOf, length_toBytes, length_bytesFrom, true_and]
    omega
  obtain ⟨hoffsetAt, hlengthAt, hssidAt, hkeyAt⟩ := hstarts
  have hoffset := wordAt_of_fields (v := 8 + p.ulSsidLen.toNat) hblock 8 (by omega) rfl
    (by omega)
  have hlength := wordAt_of_fields hblock 9 (by omega) rfl (toNat_lt_word p.ulPassPhraseLen)
  have hssidField := slice_of_fields hblock 10 (by omega) (length_bytesFrom _ _)
  have hpassphrase := slice_of_fields hblock 11 (by omega) (length_bytesFrom _ _)
  rw [hoffsetAt] at hoffset
  rw [hlengthAt] at hlength
  rw [hssidAt] at hssidField
  rw [hkeyAt] at hpassphrase
  rw [given, hkey]
  refine readProfile_header p.ulSecType hblock (by decide) (toNat_lt_word _)
    (toNat_lt_word _) (length_bytesFrom _ _) ?_ ?_
  · exact hssidField
  · rw [hkeyWord]
    simp only [readKey, hoffset, hlength, Option.bind_eq_bind, Option.bind_some, Nat.one_mul]
    exact hpassphrase

/-- The zero of the WEP layout is sent in four bytes: the bytes where the key offset
should stand are the upper half of the priority and the lower half of that offset. -/
theorem wep_block (p : Profile) (hssid : p.ulSsidLen.toNat < 256) :
    ∃ rest, streamed p.wepCalls =
      ([toBytes 4 0x20, toBytes 4 p.ulSsidLen.toNat, toBytes 4 0, bytesFrom p.bssid 6,
        toBytes 2 p.ulPriority.toNat,
        toBytes 2 (p.ulPriority.toNat / 256 ^ 2) ++ toBytes 2 (12 + p.ulSsidLen.toNat)] ++
      rest).flatten := by
  have hoffset : (0x0000000C + p.ulSsidLen).toNat = 12 + p.ulSsidLen.toNat := by
    have htwelve : (0x0000000C : BitVec 32).toNat = 12 := rfl
    rw [BitVec.toNat_add, htwelve]
    exact Nat.mod_eq_of_lt (by omega)
  have hsplit : ∀ v, toBytes 4 v = toBytes 2 v ++ toBytes 2 (v / 256 ^ 2) := toBytes_add 2 2
  have hbssid : fieldOf (.stream p.bssid (ethAlen.setWidth 8)) = bytesFrom p.bssid 6 := rfl
  refine ⟨toBytes 2 ((12 + p.ulSsidLen.toNat) / 256 ^ 2) ::
    ([SendCall.uint32 p.ulPairwiseCipherOrTxKeyLen, .uint32 p.ulGroupCipherTxKeyIndex,
      .stream p.ucSsid (p.ulSsidLen.setWidth 8)] ++
    (List.range 4).map fun i =>
      SendCall.stream (p.wepKey i) (p.ulPairwiseCipherOrTxKeyLen.setWidth 8)).map fieldOf, ?_⟩
  rw [streamed_eq_flatten, Profile.wepCalls]
  simp only [List.map_cons, List.cons_append, List.nil_append, List.flatten_cons,
    List.append_assoc, hbssid]
  simp only [fieldOf, hoffset, hsplit p.ulPriority.toNat, hsplit (12 + p.ulSsidLen.toNat),
    List.append_assoc]
  rfl

/-- Read where the layout has it, the key offset points far outside the block. -/
theorem readKey_wep (p : Profile) (hssid : p.ulSsidLen.toNat < 256) :
    readKey (streamed p.wepCalls) (some (20, 4)) = none := by
  have hlen : (streamed p.wepCalls).length ≤ 34 + 255 + 4 * 255 := by
    rw [streamed_length, callsSize_wepCalls]
    omega
  obtain ⟨rest, hblock⟩ := wep_block p hssid
  have hfield : slice (streamed p.wepCalls) 20 4 =
      some (toBytes 2 (p.ulPriority.toNat / 256 ^ 2) ++ toBytes 2 (12 + p.ulSsidLen.toNat)) :=
    slice_of_fields hblock 5 (Nat.lt_of_lt_of_le (Nat.lt_succ_self 5) (by simp)) rfl
  have hword : wordAt (streamed p.wepCalls) 20 4 =
      some (p.ulPriority.toNat / 256 ^ 2 % 256 ^ 2 +
        256 ^ 2 * ((12 + p.ulSsidLen.toNat) % 256 ^ 2)) := by
    rw [wordAt, hfield, Option.map_some, littleEndian_append, littleEndian_toBytes,
      littleEndian_toBytes, length_toBytes]
  simp only [readKey, hword, Option.bind_eq_bind, Option.bind_some]
  cases wordAt (streamed p.wepCalls) (20 + 4) 4 with
  | none => rfl
  | some keyLength => exact slice_eq_none (by omega)

/-- The block that the call emits is that of its case in the switch. -/
theorem readsBack_iff_of_arguments (p : Profile) {argLen : Byte} {calls : List SendCall}
    (h : p.arguments = some (argLen, calls)) :
    ReadsBack p ↔ readProfile p.ulSecType (streamed calls) = some (given p) := by
  unfold ReadsBack Profile.command
  rw [h, Option.map_some]
  constructor
  · rintro ⟨c, hc, hread⟩
    have hcalls : calls = c.calls := congrArg Command.calls (Option.some.inj hc)
    rw [hcalls]
    exact hread
  · intro hread
    exact ⟨_, rfl, hread⟩

theorem not_readsBack_wep (p : Profile) (htype : p.ulSecType = wlanSecWep)
    (hssid : p.ulSsidLen.toNat < 256) : ¬ ReadsBack p := by
  have hunsec : p.ulSecType ≠ wlanSecUnsec := by
    rw [htype]
    decide
  have hargs : p.arguments = some (p.wepLength, p.wepCalls) := by
    rw [Profile.arguments, if_neg hunsec, if_pos htype]
  have hkeyWord : keyWord p.ulSecType = some (20, 4) := by
    rw [keyWord, if_neg hunsec, if_pos htype]
  rw [readsBack_iff_of_arguments p hargs, readProfile, hkeyWord, readKey_wep p hssid]
  simp

/-- For every profile of a known security type whose arguments fit: the block emitted
reads back as what was given exactly when the type is not WEP. -/
theorem readsBack_iff (p : Profile) (hknown : p.KnownType) (hfits : argumentTotal p ≤ 255) :
    ReadsBack p ↔ p.ulSecType ≠ wlanSecWep := by
  unfold argumentTotal at hfits
  by_cases hunsec : p.ulSecType = wlanSecUnsec
  · rw [if_pos hunsec] at hfits
    have hargs : p.arguments = some (p.unsecLength, p.unsecCalls) := if_pos hunsec
    have hwep : p.ulSecType ≠ wlanSecWep := by
      rw [hunsec]
      decide
    rw [readsBack_iff_of_arguments p hargs]
    exact ⟨fun _ => hwep, fun _ => readProfile_unsec p hunsec (unsec_block p (by omega))⟩
  rw [if_neg hunsec] at hfits
  by_cases hwep : p.ulSecType = wlanSecWep
  · rw [if_pos hwep] at hfits
    exact ⟨fun hread => absurd hread (not_readsBack_wep p hwep (by omega)),
      fun hne => absurd hwep hne⟩
  · rw [if_neg hwep] at hfits
    have hwpa : p.ulSecType = wlanSecWpa ∨ p.ulSecType = wlanSecWpa2 :=
      (hknown.resolve_left hunsec).resolve_left hwep
    have hargs : p.arguments = some (p.wpaLength, p.wpaCalls) := by
      rw [Profile.arguments, if_neg hunsec, if_neg hwep, if_pos hwpa]
    have hssid : p.ulSsidLen.toNat < 256 := by omega
    rw [readsBack_iff_of_arguments p hargs]
    exact ⟨fun _ => hwep,
      fun _ => readProfile_wpa p hunsec hwep hssid (wpa_block p hssid (by omega))⟩

/-- The network "ab" at the given security type, with keys or a passphrase of five
bytes. -/
def smallProfile (ulSecType : BitVec 32) : Profile where
  ulSecType := ulSecType
  ucSsid := fun i => [0x61, 0x62].getD i 0
  ulSsidLen := 2
  ucBssid := none
  ulPriority := 1
  ulPairwiseCipherOrTxKeyLen := 5
  ulGroupCipherTxKeyIndex := 0
  ulKeyMgmt := 0
  ucPfOrKey := fun i => BitVec.ofNat 8 (i + 1)
  ulPassPhraseLen := 5

theorem readsBack_wpa2 :
    ReadsBack (smallProfile wlanSecWpa2) ↔ (smallProfile wlanSecWpa2).ulSecType ≠ wlanSecWep :=
  readsBack_iff (smallProfile wlanSecWpa2) (by decide) (by decide)

theorem wep_misread :
    (smallProfile wlanSecWep).KnownType ∧ argumentTotal (smallProfile wlanSecWep) ≤ 255 ∧
      ¬ ReadsBack (smallProfile wlanSecWep) :=
  ⟨by decide, by decide, not_readsBack_wep (smallProfile wlanSecWep) rfl (by decide)⟩

end Cc3000Async.ProfileLayout
