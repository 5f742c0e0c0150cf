import Cc3000Async.ArgumentBlocks
import Cc3000Async.ArgumentLengths

/-!
The argument block of a connect call, read back. The SSID is found by an offset from the
start of the block and the key by one from the word that holds it; the key's length is
taken before the key is tested, so the call has a block only when there is a key.
-/
namespace Cc3000Async.ConnectLayout

open ByteMemory ByteBlocks HciFrames SocketOperations WlanOperations
open ArgumentLengths ArgumentBlocks

structure View where
  ssid : List Byte
  secType : ℕ
  key : List Byte
  deriving DecidableEq, Repr

/-- Follow the five words of the block; the key must be the last of it. -/
def readConnect (block : List Byte) : Option View := do
  let ssidOffset ← wordAt block 0 4
  let ssidLength ← wordAt block 4 4
  let secType ← wordAt block 8 4
  let keyOffset ← wordAt block 12 4
  let keyLength ← wordAt block 16 4
  let ssid ← slice block ssidOffset ssidLength
  let key ← slice block (12 + keyOffset) keyLength
  if 12 + keyOffset + keyLength = block.length then some { ssid, secType, key } else none

def keyBytes : Option CString → List Byte
  | none => []
  | some key => key.bytes

/-- The call has a defined behaviour, and emits a frame of exactly its declared arguments,
which read back as the parameters. -/
def Encodes (ssid : CString) (secType : Byte) (key : Option CString) : Prop :=
  ∃ c, cc3000WlanConnect ssid secType key = some c ∧ LengthsAgree c ∧
    readConnect (streamed c.calls) =
      some { ssid := ssid.bytes, secType := secType.toNat, key := keyBytes key }

def connectFields (ssid : CString) (secType : Byte) (key : CString) : List (List Byte) :=
  [toBytes 4 0x1c, toBytes 4 ssid.strlen, toBytes 4 secType.toNat,
    toBytes 4 (0x10 + ssid.strlen), toBytes 4 key.strlen, toBytes 2 0, List.replicate 6 0,
    ssid.bytes, key.bytes]

theorem connect_block (ssid key : CString) (secType : Byte) (c : Command)
    (hc : cc3000WlanConnect ssid secType (some key) = some c)
    (hssid : ssid.strlen < 256) (hkey : key.strlen < 256) :
    streamed c.calls = (connectFields ssid secType key).flatten := by
  have hlen : (connectLength ssid).toNat = ssid.strlen := by
    rw [toNat_connectLength]
    exact Nat.mod_eq_of_lt hssid
  have hkeyLen : (connectLength key).toNat = key.strlen := by
    rw [toNat_connectLength]
    exact Nat.mod_eq_of_lt hkey
  have hoffset : (0x10 + (connectLength ssid).setWidth 32).toNat = 0x10 + ssid.strlen := by
    have hsixteen : (0x10 : BitVec 32).toNat = 0x10 := rfl
    rw [BitVec.toNat_add, hsixteen, BitVec.toNat_setWidth, hlen]
    omega
  have hskip : ¬ connectLength key ≠ 0#8 → key.strlen = 0 := by
    intro hzero
    rw [← hkeyLen, not_not.mp hzero]
    rfl
  have hcalls := congrArg Command.calls (Option.some.inj hc)
  rw [← hcalls, streamed_eq_flatten]
  simp only [List.map_append, List.flatten_append, hlen, hkeyLen,
    flatten_guarded _ _ hskip, flatten_sendEach, bytesFrom_string, List.map_cons, List.map_nil,
    fieldOf, toNat_widen, hoffset, connectFields, List.flatten_cons, List.flatten_nil, List.append_assoc,
    List.append_nil]
  rfl

theorem readConnect_fields (ssid key : CString) (secType : Byte) {block : List Byte}
    (hblock : block = (connectFields ssid secType key).flatten)
    (hfits : 28 + ssid.strlen + key.strlen ≤ 255) :
    readConnect block =
      some { ssid := ssid.bytes, secType := secType.toNat, key := key.bytes } := by
  have hcount : (connectFields ssid secType key).length = 9 := rfl
  have hssidLength : ssid.bytes.length = ssid.strlen := rfl
  have hkeyLength : key.bytes.length = key.strlen := rfl
  have hsecType := secType.isLt
  have hkeyAt : offsetOf (connectFields ssid secType key) 8 = 12 + (0x10 + ssid.strlen) := by
    simp only [connectFields, offsetOf, length_toBytes, List.length_replicate, hssidLength]
    omega
  have hlength : block.length = 12 + (0x10 + ssid.strlen) + key.strlen := by
    rw [hblock]
    simp only [connectFields, List.flatten_cons, List.flatten_nil, List.length_append,
      length_toBytes, List.length_replicate, hssidLength, hkeyLength, List.length_nil]
    omega
  have hread0 : wordAt block 0 4 = some 0x1c :=
    wordAt_of_fields hblock 0 (by omega) rfl (by decide)
  have hread1 : wordAt block 4 4 = some ssid.strlen :=
    wordAt_of_fields hblock 1 (by omega) rfl (by omega)
  have hread2 : wordAt block 8 4 = some secType.toNat :=
    wordAt_of_fields hblock 2 (by omega) rfl (by omega)
  have hread3 : wordAt block 12 4 = some (0x10 + ssid.strlen) :=
    wordAt_of_fields hblock 3 (by omega) rfl (by omega)
  have hread4 : wordAt block 16 4 = some key.strlen :=
    wordAt_of_fields hblock 4 (by omega) rfl (by omega)
  have hread7 : slice block 0x1c ssid.strlen = some ssid.bytes :=
    slice_of_fields hblock 7 (by omega) hssidLength
  have hread8 := slice_of_fields hblock 8 (by omega) hkeyLength
  rw [hkeyAt] at hread8
  simp only [readConnect, hread0, hread1, hread2, hread3, hread4, hread7, hread8, hlength,
    Option.bind_eq_bind, Option.bind_some, if_true]
  rfl

/-- For every SSID, security type and optional key whose arguments fit: the call is
defined and its frame reads back as the parameters exactly when there is a key. -/
theorem encodes_iff (ssid : CString) (secType : Byte) (key : Option CString)
    (hfits : 28 + ssid.strlen + (keyBytes key).length ≤ 255) :
    Encodes ssid secType key ↔ key ≠ none := by
  cases key with
  | none =>
    constructor
    · rintro ⟨c, hc, -⟩
      exact absurd hc (Option.some_ne_none c).symm
    · exact fun h => absurd rfl h
  | some key =>
    have hkey : (keyBytes (some key)).length = key.strlen := rfl
    rw [hkey] at hfits
    refine ⟨fun _ => Option.some_ne_none key, fun _ => ⟨_, rfl, ?_, ?_⟩⟩
    · rw [lengthsAgree_iff_args, wlanConnect_iff ssid key secType _ rfl]
      omega
    · have hblock := connect_block ssid key secType _ rfl (by omega) (by omega)
      exact readConnect_fields ssid key secType hblock hfits

def shortString : CString where
  bytes := [0x61, 0x62]
  noNul := by decide

theorem encodes_shortString :
    Encodes shortString 3 (some shortString) ↔ some shortString ≠ none :=
  encodes_iff shortString 3 (some shortString) (by decide)

theorem absentKey_undefined :
    28 + shortString.strlen + (keyBytes none).length ≤ 255 ∧ ¬ Encodes shortString 0 none := by
  refine ⟨by decide, ?_⟩
  rintro ⟨c, hc, -⟩
  exact absurd hc (Option.some_ne_none c).symm

end Cc3000Async.ConnectLayout
