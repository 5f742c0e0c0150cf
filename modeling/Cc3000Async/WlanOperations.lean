import Cc3000Async.SocketOperations

/-!
The WLAN and network application operations. Connecting and adding a profile are
the two whose frames depend on caller-supplied lengths; the profile command also
depends on a security type that its switch need not know.
-/
namespace Cc3000Async.WlanOperations

open ByteMemory Opcodes DriverState HciFrames SocketOperations

inductive OpenApConnectOptions
  | openApAutoConnectDisabled
  | openApAutoConnectEnabled
  deriving DecidableEq, Repr

inductive FastConnectOptions
  | fastConnectDisabled
  | fastConnectEnabled
  deriving DecidableEq, Repr

inductive UseProfilesOptions
  | useProfilesDisabled
  | useProfilesEnabled
  deriving DecidableEq, Repr

def OpenApConnectOptions.value : OpenApConnectOptions → BitVec 32
  | openApAutoConnectDisabled => 0
  | openApAutoConnectEnabled => 1

def FastConnectOptions.value : FastConnectOptions → BitVec 32
  | fastConnectDisabled => 0
  | fastConnectEnabled => 1

def UseProfilesOptions.value : UseProfilesOptions → BitVec 32
  | useProfilesDisabled => 0
  | useProfilesEnabled => 1

def cc3000WlanDisconnect : Command where
  opcode := hciCmndWlanDisconnect
  argsLength := 0
  calls := []
  expected := hciEvntWlanDisconnect

def cc3000WlanGetStatus : Command where
  opcode := hciCmndWlanIoctlStatusget
  argsLength := 0
  calls := []
  expected := hciCmndWlanIoctlStatusget

def cc3000WlanSetScanParams (scanFrequency : BitVec 32) (channelMask : BitVec 16) :
    Command where
  opcode := hciCmndWlanIoctlSetScanparam
  argsLength := 25 * 4
  calls := [.uint32 36, .uint32 scanFrequency, .uint32 100, .uint32 100, .uint32 5,
      .uint32 (channelMask.setWidth 32), .uint32 (-80), .uint32 0, .uint32 205] ++
    List.replicate 16 (.uint32 2000)
  expected := hciCmndWlanIoctlSetScanparam

/-- Both string lengths as the bytes `cc3000_wlan_connect` keeps them in. -/
def connectLength (string : CString) : Byte := BitVec.ofNat 8 string.strlen

/-- The key is measured before it is tested for a null pointer, so a null key
leaves the call without a defined behaviour. -/
def cc3000WlanConnect (ssid : CString) (secType : Byte) (key : Option CString) :
    Option Command :=
  match key with
  | none => none
  | some key =>
    some
      { opcode := hciCmndWlanConnect
        argsLength := 28 + connectLength ssid + connectLength key
        calls :=
          [.uint32 0x0000001c, .uint32 ((connectLength ssid).setWidth 32),
            .uint32 (secType.setWidth 32), .uint32 (0x10 + (connectLength ssid).setWidth 32),
            .uint32 ((connectLength key).setWidth 32), .uint16 0] ++
          List.replicate 6 (.uint8 0) ++
          sendEach ssid.byteAt (connectLength ssid).toNat ++
          (if connectLength key ≠ 0#8 then sendEach key.byteAt (connectLength key).toNat else [])
        expected := hciEvntWlanConnect }

def cc3000WlanSetEventMask (mask : BitVec 16) : Command where
  opcode := hciCmndEventMask
  argsLength := 4
  calls := [.uint32 (mask.setWidth 32)]
  expected := hciCmndEventMask

def cc3000WlanSetConnectionPolicy (fastConnect : FastConnectOptions)
    (openApConnect : OpenApConnectOptions) (useProfiles : UseProfilesOptions) : Command where
  opcode := hciCmndWlanIoctlSetConnectionPolicy
  argsLength := 3 * 4
  calls := [.uint32 openApConnect.value, .uint32 fastConnect.value, .uint32 useProfiles.value]
  expected := hciCmndWlanIoctlSetConnectionPolicy

def cc3000WlanReqScanResult : Command where
  opcode := hciCmndWlanIoctlGetScanResults
  argsLength := 4
  calls := [.uint32 0x0000]
  expected := hciCmndWlanIoctlGetScanResults

def ethAlen : BitVec 32 := 6

def wlanSecUnsec : BitVec 32 := 0
def wlanSecWep : BitVec 32 := 1
def wlanSecWpa : BitVec 32 := 2
def wlanSecWpa2 : BitVec 32 := 3

/-- The parameters of `cc3000_wlan_add_profile`; no BSSID is a null pointer. -/
structure Profile where
  ulSecType : BitVec 32
  ucSsid : Mem
  ulSsidLen : BitVec 32
  ucBssid : Option Mem
  ulPriority : BitVec 32
  ulPairwiseCipherOrTxKeyLen : BitVec 32
  ulGroupCipherTxKeyIndex : BitVec 32
  ulKeyMgmt : BitVec 32
  ucPfOrKey : Mem
  ulPassPhraseLen : BitVec 32

namespace Profile

def bssid (p : Profile) : Mem := p.ucBssid.getD fun _ => 0

def unsecLength (p : Profile) : Byte := (14 + ethAlen + p.ulSsidLen).setWidth 8

def unsecCalls (p : Profile) : List SendCall :=
  [.uint32 0x00000014, .uint32 p.ulSsidLen, .uint16 0,
    .stream p.bssid (ethAlen.setWidth 8), .uint32 p.ulPriority,
    .stream p.ucSsid (p.ulSsidLen.setWidth 8)]

def wepLength (p : Profile) : Byte :=
  (28 + ethAlen + p.ulSsidLen + 4 * p.ulPairwiseCipherOrTxKeyLen).setWidth 8

def wepKey (p : Profile) (i : ℕ) : Mem := fun count =>
  p.ucPfOrKey ((BitVec.ofNat 32 i * p.ulPairwiseCipherOrTxKeyLen).toNat + count)

def wepCalls (p : Profile) : List SendCall :=
  [.uint32 0x00000020, .uint32 p.ulSsidLen, .uint32 0,
    .stream p.bssid (ethAlen.setWidth 8), .uint32 p.ulPriority,
    .uint32 (0x0000000C + p.ulSsidLen), .uint32 p.ulPairwiseCipherOrTxKeyLen,
    .uint32 p.ulGroupCipherTxKeyIndex, .stream p.ucSsid (p.ulSsidLen.setWidth 8)] ++
  (List.range 4).map fun i => .stream (p.wepKey i) (p.ulPairwiseCipherOrTxKeyLen.setWidth 8)

def wpaLength (p : Profile) : Byte :=
  (34 + ethAlen + p.ulSsidLen + p.ulPassPhraseLen).setWidth 8

def wpaCalls (p : Profile) : List SendCall :=
  [.uint32 0x00000028, .uint32 p.ulSsidLen, .uint16 0,
    .stream p.bssid (ethAlen.setWidth 8), .uint32 p.ulPriority,
    .uint32 p.ulPairwiseCipherOrTxKeyLen, .uint32 p.ulGroupCipherTxKeyIndex,
    .uint32 p.ulKeyMgmt, .uint32 (0x00000008 + p.ulSsidLen), .uint32 p.ulPassPhraseLen,
    .stream p.ucSsid (p.ulSsidLen.setWidth 8),
    .stream p.ucPfOrKey (p.ulPassPhraseLen.setWidth 8)]

/-- The switch on the security type: declared length and calls, none when no case
applies. -/
def arguments (p : Profile) : Option (Byte × List SendCall) :=
  if p.ulSecType = wlanSecUnsec then some (p.unsecLength, p.unsecCalls)
  else if p.ulSecType = wlanSecWep then some (p.wepLength, p.wepCalls)
  else if p.ulSecType = wlanSecWpa ∨ p.ulSecType = wlanSecWpa2 then
    some (p.wpaLength, p.wpaCalls)
  else none

def command (p : Profile) : Option Command :=
  p.arguments.map fun (argLen, calls) =>
    { opcode := hciCmndWlanIoctlAddProfile
      argsLength := argLen
      calls := calls
      expected := hciCmndWlanIoctlAddProfile }

def KnownType (p : Profile) : Prop :=
  p.ulSecType = wlanSecUnsec ∨ p.ulSecType = wlanSecWep ∨ p.ulSecType = wlanSecWpa ∨
    p.ulSecType = wlanSecWpa2

instance (p : Profile) : Decidable p.KnownType := inferInstanceAs (Decidable (_ ∨ _))

theorem arguments_eq_none_iff (p : Profile) : p.arguments = none ↔ ¬ p.KnownType := by
  unfold arguments KnownType
  split_ifs <;> simp_all

end Profile

/-- The counter, the end call and the expectation stand outside the switch. -/
def cc3000WlanAddProfile (p : Profile) : Prog :=
  [.incDesiredState] ++
  (match p.arguments with
  | some (argLen, calls) =>
    cc3000HciStartCommand hciCmndWlanIoctlAddProfile argLen ++ callsProg calls
  | none => []) ++
  cc3000HciEndCommand ++ [.hciExpect hciCmndWlanIoctlAddProfile]

/-- With a known security type the profile operation is a command like the others. -/
theorem cc3000WlanAddProfile_eq (p : Profile) (c : Command) (h : p.command = some c) :
    cc3000WlanAddProfile p = c.prog := by
  unfold Profile.command at h
  unfold cc3000WlanAddProfile
  cases harg : p.arguments with
  | none => simp [harg] at h
  | some pair =>
    obtain ⟨argLen, calls⟩ := pair
    rw [harg, Option.map_some, Option.some.injEq] at h
    subst h
    simp [Command.prog]

def cc3000WlanDelProfile (ulIndex : BitVec 32) : Command where
  opcode := hciCmndWlanIoctlDelProfile
  argsLength := 4
  calls := [.uint32 ulIndex]
  expected := hciCmndWlanIoctlDelProfile

def cc3000NetappDhcp (aucIp aucSubnetMask aucDefaultGateway aucDnsServer : BitVec 32) :
    Command where
  opcode := hciNetappDhcp
  argsLength := 20
  calls := [.uint32 aucIp, .uint32 aucSubnetMask, .uint32 aucDefaultGateway, .uint32 0,
    .uint32 aucDnsServer]
  expected := hciNetappDhcp

def minTimerValSeconds : BitVec 32 := 20

/-- The macro `MIN_TIMER_SET`. -/
def minTimerSet (t : BitVec 32) : BitVec 32 :=
  if 0#32 ≠ t ∧ t.toNat < minTimerValSeconds.toNat then minTimerValSeconds else t

def netappTimeoutValues (aucDhcp aucArp aucKeepalive aucInactivity : BitVec 32) : Command where
  opcode := hciNetappSetTimers
  argsLength := 16
  calls := [.uint32 (minTimerSet aucDhcp), .uint32 (minTimerSet aucArp),
    .uint32 (minTimerSet aucKeepalive), .uint32 (minTimerSet aucInactivity)]
  expected := hciNetappSetTimers

end Cc3000Async.WlanOperations
