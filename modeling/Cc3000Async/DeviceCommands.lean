import Cc3000Async.ConnectLayout
import Cc3000Async.DescriptorSets
import Cc3000Async.FrameRoundTrip
import Cc3000Async.ProfileLayout
import Cc3000Async.ServiceNames
import Cc3000Async.SocketAddresses

/-!
The commands as the device reads them. The opcode tells the operation. Its parameters are
the words of the arguments, each at its place, and for some operations the bytes behind
these words: an address, an option, a name, or what a layout of its own describes. Whatever
a request is given, within the lengths that its frame can carry, is read back.
-/
namespace Cc3000Async.DeviceCommands

open ByteMemory ByteBlocks Opcodes DriverState HciFrames SocketOperations WlanOperations
open FrameRoundTrip Requests ArgumentBlocks

inductive Operation
  | start (patchesRequest : Byte)
  | readBufferSize
  | socket (domain type protocol : ℕ)
  | connect (sd port : ℕ) (ip : List Byte)
  | accept (sd : ℕ)
  | listen (sd backlog : ℕ)
  | bind (sd port : ℕ) (ip : List Byte)
  | setsockopt (sd level optname : ℕ) (optval : List Byte)
  | select (nfds : ℕ) (timeout : Option (ℕ × ℕ)) (readsds writesds exceptsds : ℕ)
  | recv (sd len flags : ℕ)
  | send (sd flags : ℕ) (buf : List Byte)
  | closeSocket (sd : ℕ)
  | mdnsAdvertise (mdnsEnabled : ℕ) (serviceName : List Byte)
  | wlanDisconnect
  | wlanStatusget
  | wlanSetScanParams (scanFrequency channelMask : ℕ)
  | wlanConnect (view : ConnectLayout.View)
  | wlanSetEventMask (mask : ℕ)
  | wlanSetConnectionPolicy (openApConnect fastConnect useProfiles : ℕ)
  | wlanGetScanResults
  | wlanAddProfile (secured : Bool) (view : ProfileLayout.View)
  | wlanDelProfile (index : ℕ)
  | netappDhcp (ip subnetMask defaultGateway dnsServer : ℕ)
  | netappSetTimers (dhcp arp keepalive inactivity : ℕ)
  deriving DecidableEq

def exactly (n : ℕ) (words : List ℕ) (make : (ℕ → ℕ) → Operation) : Option Operation :=
  if words.length = n then some (make fun i => words.getD i 0) else none

def ofWords (opcode : BitVec 16) (words : List ℕ) : Option Operation :=
  if opcode = hciCmndReadBufferSize then exactly 0 words fun _ => .readBufferSize
  else if opcode = hciCmndSocket then exactly 3 words fun w => .socket (w 0) (w 1) (w 2)
  else if opcode = hciCmndAccept then exactly 1 words fun w => .accept (w 0)
  else if opcode = hciCmndListen then exactly 2 words fun w => .listen (w 0) (w 1)
  else if opcode = hciCmndBsdSelect then
    exactly 11 words fun w =>
      .select (w 0) (if w 5 = 1 then none else some (w 9, w 10)) (w 6) (w 7) (w 8)
  else if opcode = hciCmndRecv then exactly 3 words fun w => .recv (w 0) (w 1) (w 2)
  else if opcode = hciCmndCloseSocket then exactly 1 words fun w => .closeSocket (w 0)
  else if opcode = hciCmndWlanDisconnect then exactly 0 words fun _ => .wlanDisconnect
  else if opcode = hciCmndWlanIoctlStatusget then exactly 0 words fun _ => .wlanStatusget
  else if opcode = hciCmndWlanIoctlSetScanparam then
    exactly 25 words fun w => .wlanSetScanParams (w 1) (w 5)
  else if opcode = hciCmndEventMask then exactly 1 words fun w => .wlanSetEventMask (w 0)
  else if opcode = hciCmndWlanIoctlSetConnectionPolicy then
    exactly 3 words fun w => .wlanSetConnectionPolicy (w 0) (w 1) (w 2)
  else if opcode = hciCmndWlanIoctlGetScanResults then
    exactly 1 words fun _ => .wlanGetScanResults
  else if opcode = hciCmndWlanIoctlDelProfile then exactly 1 words fun w => .wlanDelProfile (w 0)
  else if opcode = hciNetappDhcp then
    exactly 5 words fun w => .netappDhcp (w 0) (w 1) (w 2) (w 4)
  else if opcode = hciNetappSetTimers then
    exactly 4 words fun w => .netappSetTimers (w 0) (w 1) (w 2) (w 3)
  else none

/-- An address of the Internet family: the port, in network order, and the four bytes. -/
def readAddress (tail : List Byte) : Option (ℕ × List Byte) :=
  if tail.length = 8 ∧ tail.take 2 = toBytes 2 afInet.toNat then
    some (littleEndian ((tail.drop 2).take 2).reverse, tail.drop 4)
  else none

def withAddress (make : ℕ → ℕ → List Byte → Operation) (block : List Byte) :
    Option Operation :=
  (takeWords 4 3 block).bind fun front =>
    (readAddress front.2).map fun address => make (front.1.getD 0 0) address.1 address.2

/-- Words, the last of which counts the bytes behind them. -/
def withBytes (n : ℕ) (make : (ℕ → ℕ) → List Byte → Operation) (block : List Byte) :
    Option Operation :=
  (takeWords 4 (n + 1) block).bind fun front =>
    if front.2.length = front.1.getD n 0 then some (make (fun i => front.1.getD i 0) front.2)
    else none

/-- Where the SSID starts tells the layouts apart. -/
def readAddProfile (block : List Byte) : Option Operation :=
  (wordAt block 0 4).bind fun ssidOffset =>
    if ssidOffset = 0x14 then
      (ProfileLayout.readProfile wlanSecUnsec block).map (.wlanAddProfile false)
    else if ssidOffset = 0x28 then
      (ProfileLayout.readProfile wlanSecWpa block).map (.wlanAddProfile true)
    else none

def readCommand (opcode : BitVec 16) (block : List Byte) : Option Operation :=
  if opcode = hciCmndSimpleLinkStart then
    if block.length = 1 then some (.start (block.getD 0 0)) else none
  else if opcode = hciCmndConnect then withAddress .connect block
  else if opcode = hciCmndBind then withAddress .bind block
  else if opcode = hciCmndSetsockopt then
    withBytes 4 (fun w optval => .setsockopt (w 0) (w 1) (w 2) optval) block
  else if opcode = hciCmndMdnsAdvertise then
    withBytes 2 (fun w serviceName => .mdnsAdvertise (w 0) serviceName) block
  else if opcode = hciCmndWlanConnect then
    (ConnectLayout.readConnect block).map .wlanConnect
  else if opcode = hciCmndWlanIoctlAddProfile then readAddProfile block
  else
    (takeWords 4 (block.length / 4) block).bind fun front =>
      if front.2 = [] then ofWords opcode front.1 else none

/-- The data frame of a send counts its payload once more. -/
def readData (opcode : Byte) (args payload : List Byte) : Option Operation :=
  if opcode = hciCmndSend.setWidth 8 then
    (takeWords 4 4 args).bind fun front =>
      if front.2 = [] ∧ front.1.getD 2 0 = payload.length then
        some (.send (front.1.getD 0 0) (front.1.getD 3 0) payload)
      else none
  else none

def readMessage : Message → Option Operation
  | .command opcode args => readCommand opcode args
  | .data opcode args payload => readData opcode args payload

/-- What a request asks for. A timeout is raised to the minimum that a select waits for, and
each timer to its own; a name that is too long asks for nothing. -/
def asked : Request → Option Operation
  | .start patchesRequest => some (.start patchesRequest)
  | .generalReqBufferSize => some .readBufferSize
  | .reqSocket domain type protocol => some (.socket domain.toNat type.toNat protocol.toNat)
  | .connect sd port addr => some (.connect sd.toNat port.toNat (List.ofFn addr.ip))
  | .reqAccept sd => some (.accept sd.toNat)
  | .listen sd => some (.listen sd.toNat 1)
  | .bind sd port => some (.bind sd.toNat port.toNat [0, 0, 0, 0])
  | .setsockopt sd level optname optval optlen =>
      some (.setsockopt sd.toNat level.toNat optname.toNat (bytesFrom optval optlen.toNat))
  | .reqSelect nfds readsds writesds exceptsds timeout =>
      some (.select nfds.toNat
        (timeout.map fun t => ((selectTimeout t).tvSec.toNat, (selectTimeout t).tvUsec.toNat))
        (readsds.getD 0).toNat (writesds.getD 0).toNat (exceptsds.getD 0).toNat)
  | .reqRecv sd len flags => some (.recv sd.toNat len.toNat flags.toNat)
  | .socketClose sd => some (.closeSocket sd.toNat)
  | .socketMdnsAdvertise mdnsEnabled serviceName =>
      if (serviceNameLength serviceName).toNat > mdnsDeviceServiceMaxLength then none
      else some (.mdnsAdvertise mdnsEnabled.toNat serviceName.bytes)
  | .wlanDisconnect => some .wlanDisconnect
  | .wlanGetStatus => some .wlanStatusget
  | .wlanSetScanParams scanFrequency channelMask =>
      some (.wlanSetScanParams scanFrequency.toNat channelMask.toNat)
  | .wlanConnect ssid secType key =>
      some (.wlanConnect
        { ssid := ssid.bytes, secType := secType.toNat, key := ConnectLayout.keyBytes key })
  | .wlanSetEventMask mask => some (.wlanSetEventMask mask.toNat)
  | .wlanSetConnectionPolicy fastConnect openApConnect useProfiles =>
      some (.wlanSetConnectionPolicy openApConnect.value.toNat fastConnect.value.toNat
        useProfiles.value.toNat)
  | .wlanReqScanResult => some .wlanGetScanResults
  | .wlanAddProfile profile =>
      some (.wlanAddProfile (profile.ulSecType ≠ wlanSecUnsec) (ProfileLayout.given profile))
  | .wlanDelProfile ulIndex => some (.wlanDelProfile ulIndex.toNat)
  | .netappDhcp aucIp aucSubnetMask aucDefaultGateway aucDnsServer =>
      some (.netappDhcp aucIp.toNat aucSubnetMask.toNat aucDefaultGateway.toNat
        aucDnsServer.toNat)
  | .netappTimeoutValues aucDhcp aucArp aucKeepalive aucInactivity =>
      some (.netappSetTimers (minTimerSet aucDhcp).toNat (minTimerSet aucArp).toNat
        (minTimerSet aucKeepalive).toNat (minTimerSet aucInactivity).toNat)

/-- The lengths fit the frame and its fields; a WEP profile has no layout to be read by. -/
def Readable : Request → Prop
  | .setsockopt _ _ _ _ optlen => optlen = 0#32 ∨ optlen = 2#32 ∨ optlen = 4#32
  | .socketMdnsAdvertise _ serviceName => serviceName.strlen < 256
  | .wlanConnect ssid _ key => 28 + ssid.strlen + (ConnectLayout.keyBytes key).length ≤ 255
  | .wlanAddProfile profile =>
      profile.KnownType ∧ profile.ulSecType ≠ wlanSecWep ∧
        ProfileLayout.argumentTotal profile ≤ 255
  | _ => True

/-- The opcodes whose arguments are not only words. -/
def furnished : List (BitVec 16) :=
  [hciCmndSimpleLinkStart, hciCmndConnect, hciCmndBind, hciCmndSetsockopt, hciCmndMdnsAdvertise,
    hciCmndWlanConnect, hciCmndWlanIoctlAddProfile]

theorem takeWords_streamed (us : List (BitVec 32)) (tail : List Byte) :
    takeWords 4 us.length (streamed (us.map .uint32) ++ tail) =
      some (us.map BitVec.toNat, tail) := by
  have hfit : ∀ v ∈ us.map BitVec.toNat, v < 256 ^ 4 := by
    intro v hv
    obtain ⟨u, -, rfl⟩ := List.mem_map.mp hv
    exact u.isLt
  have htake := takeWords_append hfit tail
  rwa [List.length_map, ← streamed_words] at htake

theorem length_streamed_words (us : List (BitVec 32)) :
    (streamed (us.map .uint32)).length = 4 * us.length := by
  rw [streamed_words]
  induction us with
  | nil => rfl
  | cons u us ih =>
    rw [List.map_cons, List.map_cons, List.flatten_cons, List.length_append, ih, length_toBytes,
      List.length_cons]
    omega

theorem readCommand_words (opcode : BitVec 16) (us : List (BitVec 32))
    (hopcode : opcode ∉ furnished) :
    readCommand opcode (streamed (us.map .uint32)) = ofWords opcode (us.map BitVec.toNat) := by
  simp only [furnished, List.mem_cons, List.not_mem_nil, or_false, not_or] at hopcode
  obtain ⟨hstart, hconnect, hbind, hoption, hname, hwlan, hprofile⟩ := hopcode
  have hcount : 4 * us.length / 4 = us.length := Nat.mul_div_cancel_left _ (by omega)
  have htake := takeWords_streamed us []
  rw [List.append_nil] at htake
  rw [readCommand, if_neg hstart, if_neg hconnect, if_neg hbind, if_neg hoption, if_neg hname,
    if_neg hwlan, if_neg hprofile, length_streamed_words, hcount, htake, Option.bind_some,
    if_pos rfl]

theorem toNat_widen_half (u : BitVec 16) : (u.setWidth 32).toNat = u.toNat :=
  BitVec.toNat_setWidth_of_le (by omega)

theorem readAddress_addressBytes (port : BitVec 16) (addr : IpAddr) :
    readAddress (SocketAddresses.addressBytes port addr) =
      some (port.toNat, List.ofFn addr.ip) := by
  have hfamily : (SocketAddresses.addressBytes port addr).take 2 = toBytes 2 afInet.toNat := by
    rw [toBytes_two]
    rfl
  have hport : (((SocketAddresses.addressBytes port addr).drop 2).take 2).reverse =
      [port.setWidth 8, (port >>> 8).setWidth 8] := rfl
  have hip : (SocketAddresses.addressBytes port addr).drop 4 = List.ofFn addr.ip := rfl
  rw [readAddress, if_pos ⟨rfl, hfamily⟩, hport, hip, littleEndian_two, word16_split]

theorem withAddress_block (make : ℕ → ℕ → List Byte → Operation) (sd : Byte)
    (port : BitVec 16) (addr : IpAddr) :
    withAddress make (SocketAddresses.leadingWords sd ++ SocketAddresses.addressBytes port addr) =
      some (make sd.toNat port.toNat (List.ofFn addr.ip)) := by
  have hwords : SocketAddresses.leadingWords sd =
      (([sd.toNat, 8, 8] : List ℕ).map (toBytes 4)).flatten := by
    simp [SocketAddresses.leadingWords]
  have hfit : ∀ v ∈ [sd.toNat, 8, 8], v < 256 ^ 4 := by
    have hsd := sd.isLt
    simp only [List.mem_cons, List.not_mem_nil, or_false, forall_eq_or_imp, forall_eq]
    omega
  have htake := takeWords_append hfit (SocketAddresses.addressBytes port addr)
  rw [← hwords] at htake
  rw [withAddress]
  simp only [List.length_cons, List.length_nil] at htake
  rw [htake, Option.bind_some, readAddress_addressBytes]
  rfl

theorem withBytes_block (make : (ℕ → ℕ) → List Byte → Operation) {words : List ℕ} {n : ℕ}
    (hlength : words.length = n + 1) (hwords : ∀ v ∈ words, v < 256 ^ 4) (tail : List Byte)
    (htail : tail.length = words.getD n 0) :
    withBytes n make ((words.map (toBytes 4)).flatten ++ tail) =
      some (make (fun i => words.getD i 0) tail) := by
  have htake := takeWords_append hwords tail
  rw [hlength] at htake
  rw [withBytes, htake, Option.bind_some, if_pos htail]

theorem toNat_append_byte {w : ℕ} (u : BitVec w) (b : Byte) :
    (u ++ b).toNat = u.toNat * 256 + b.toNat := by
  rw [BitVec.toNat_append, ← Nat.shiftLeft_add_eq_or_of_lt b.isLt, Nat.shiftLeft_eq]

theorem readUint32_eq (p : Mem) : readUint32 p = word32 (p 3) (p 2) (p 1) (p 0) := by
  apply BitVec.eq_of_toNat_eq
  rw [toNat_word32, readUint32, toNat_append_byte, toNat_append_byte, toNat_append_byte]
  omega

/-- An option of a length that the call knows is sent as it stands in memory. -/
theorem setsockopt_block (sd : Byte) (level optname : BitVec 32) (optval : Mem)
    {optlen : BitVec 32} (hlen : optlen = 0#32 ∨ optlen = 2#32 ∨ optlen = 4#32) :
    streamed (cc3000Setsockopt sd level optname optval optlen).calls =
      (([sd.toNat, level.toNat, optname.toNat, 8, optlen.toNat] : List ℕ).map
        (toBytes 4)).flatten ++ bytesFrom optval optlen.toNat := by
  have hwords : ((([sd.setWidth 32, level, optname, 8, optlen] : List (BitVec 32)).map
      SendCall.uint32).map fieldOf).flatten =
      (([sd.toNat, level.toNat, optname.toNat, 8, optlen.toNat] : List ℕ).map
        (toBytes 4)).flatten := by
    rw [← streamed_eq_flatten, streamed_words]
    simp only [List.map_cons, List.map_nil, toNat_widen]
    rfl
  rw [streamed_eq_flatten, ← hwords]
  simp only [cc3000Setsockopt, List.map_append, List.flatten_append]
  refine congrArg₂ _ rfl ?_
  rcases hlen with rfl | rfl | rfl
  · rfl
  · have hbytes := toBytes_littleEndian [optval 0, optval 1]
    rw [littleEndian_two] at hbytes
    exact (List.append_nil _).trans hbytes
  · have hbytes := toBytes_littleEndian [optval 0, optval 1, optval 2, optval 3]
    rw [littleEndian_four, ← readUint32_eq] at hbytes
    exact (List.append_nil _).trans hbytes

/-- The two layouts that can be read are told apart by their first word. -/
theorem readAddProfile_given (profile : Profile) (c : Command) (hc : profile.command = some c)
    (hknown : profile.KnownType) (hwep : profile.ulSecType ≠ wlanSecWep)
    (hfits : ProfileLayout.argumentTotal profile ≤ 255) :
    readAddProfile (streamed c.calls) =
      some (.wlanAddProfile (profile.ulSecType ≠ wlanSecUnsec) (ProfileLayout.given profile)) := by
  unfold Profile.command at hc
  unfold ProfileLayout.argumentTotal at hfits
  by_cases hunsec : profile.ulSecType = wlanSecUnsec
  · rw [if_pos hunsec] at hfits
    have hargs : profile.arguments = some (profile.unsecLength, profile.unsecCalls) :=
      if_pos hunsec
    rw [hargs] at hc
    rw [← Option.some.inj hc]
    have hblock := ProfileLayout.unsec_block profile (by omega)
    have hfirst : wordAt (streamed profile.unsecCalls) 0 4 = some 0x14 :=
      wordAt_of_fields hblock 0 (Nat.succ_pos 5) rfl (by decide)
    have hread := ProfileLayout.readProfile_unsec profile hunsec hblock
    rw [hunsec] at hread
    simp [readAddProfile, hfirst, hread, hunsec]
  · rw [if_neg hunsec, if_neg hwep] at hfits
    have hwpa : profile.ulSecType = wlanSecWpa ∨ profile.ulSecType = wlanSecWpa2 :=
      (hknown.resolve_left hunsec).resolve_left hwep
    have hargs : profile.arguments = some (profile.wpaLength, profile.wpaCalls) := by
      rw [Profile.arguments, if_neg hunsec, if_neg hwep, if_pos hwpa]
    rw [hargs] at hc
    rw [← Option.some.inj hc]
    have hssid : profile.ulSsidLen.toNat < 256 := by omega
    have hblock := ProfileLayout.wpa_block profile hssid (by omega)
    have hfirst : wordAt (streamed profile.wpaCalls) 0 4 = some 0x28 :=
      wordAt_of_fields hblock 0 (Nat.succ_pos 11) rfl (by decide)
    have hread := ProfileLayout.readProfile_wpa profile hunsec hwep hssid hblock
    -- the layout of both types is the same
    have hlayout : ProfileLayout.readProfile wlanSecWpa (streamed profile.wpaCalls) =
        ProfileLayout.readProfile profile.ulSecType (streamed profile.wpaCalls) := by
      rcases hwpa with htype | htype
      · rw [htype]
      · rw [htype]
        rfl
    simp [readAddProfile, hfirst, hlayout, hread, hunsec]

def scanWords (scanFrequency : BitVec 32) (channelMask : BitVec 16) : List (BitVec 32) :=
  [36, scanFrequency, 100, 100, 5, channelMask.setWidth 32, -80, 0, 205] ++
    List.replicate 16 2000

theorem scanParams_calls (scanFrequency : BitVec 32) (channelMask : BitVec 16) :
    (cc3000WlanSetScanParams scanFrequency channelMask).calls =
      (scanWords scanFrequency channelMask).map .uint32 := by
  rw [scanWords, List.map_append, List.map_replicate]
  rfl

theorem ofWords_scanParams (scanFrequency : BitVec 32) (channelMask : BitVec 16) :
    ofWords hciCmndWlanIoctlSetScanparam
        ((scanWords scanFrequency channelMask).map BitVec.toNat) =
      some (.wlanSetScanParams scanFrequency.toNat channelMask.toNat) := by
  have hopcode : ofWords hciCmndWlanIoctlSetScanparam
      ((scanWords scanFrequency channelMask).map BitVec.toNat) =
      exactly 25 ((scanWords scanFrequency channelMask).map BitVec.toNat)
        fun w => .wlanSetScanParams (w 1) (w 5) := rfl
  have hlength : ((scanWords scanFrequency channelMask).map BitVec.toNat).length = 25 := by
    rw [List.length_map, scanWords, List.length_append, List.length_replicate]
    rfl
  rw [hopcode, exactly, if_pos hlength, ← toNat_widen_half channelMask]
  rfl

/-- The words of a request whose arguments are words and nothing else. -/
def wordsOf : Request → Option (List (BitVec 32))
  | .reqSocket domain type protocol =>
      some [domain.setWidth 32, type.setWidth 32, protocol.setWidth 32]
  | .reqAccept sd => some [sd.setWidth 32]
  | .listen sd => some [sd.setWidth 32, 1]
  | .reqSelect nfds readsds writesds exceptsds timeout =>
      some (DescriptorSets.selectWords nfds readsds writesds exceptsds timeout)
  | .reqRecv sd len flags => some [sd.setWidth 32, len.setWidth 32, flags.setWidth 32]
  | .socketClose sd => some [sd.setWidth 32]
  | .wlanDisconnect => some []
  | .wlanGetStatus => some []
  | .wlanSetScanParams scanFrequency channelMask => some (scanWords scanFrequency channelMask)
  | .wlanSetEventMask mask => some [mask.setWidth 32]
  | .wlanSetConnectionPolicy fastConnect openApConnect useProfiles =>
      some [openApConnect.value, fastConnect.value, useProfiles.value]
  | .wlanReqScanResult => some [0]
  | .wlanDelProfile ulIndex => some [ulIndex]
  | .netappDhcp aucIp aucSubnetMask aucDefaultGateway aucDnsServer =>
      some [aucIp, aucSubnetMask, aucDefaultGateway, 0, aucDnsServer]
  | .netappTimeoutValues aucDhcp aucArp aucKeepalive aucInactivity =>
      some [minTimerSet aucDhcp, minTimerSet aucArp, minTimerSet aucKeepalive,
        minTimerSet aucInactivity]
  | _ => none

section Words

variable {r : Request} {c : Command} {us : List (BitVec 32)}

theorem calls_wordsOf (hwords : wordsOf r = some us) (hc : r.command = some c) :
    c.calls = us.map .uint32 ∧ c.opcode ∉ furnished := by
  cases r with
  | reqSelect nfds readsds writesds exceptsds timeout =>
    rw [← Option.some.inj hwords, ← Option.some.inj hc]
    refine ⟨?_, of_decide_eq_true rfl⟩
    cases timeout <;> rfl
  | wlanSetScanParams scanFrequency channelMask =>
    rw [← Option.some.inj hwords, ← Option.some.inj hc]
    exact ⟨scanParams_calls scanFrequency channelMask, of_decide_eq_true rfl⟩
  | _ =>
    first
    | exact absurd hwords (Option.some_ne_none us).symm
    | rw [← Option.some.inj hwords, ← Option.some.inj hc]
      exact ⟨rfl, of_decide_eq_true rfl⟩

theorem ofWords_wordsOf (hwords : wordsOf r = some us) (hc : r.command = some c) :
    ofWords c.opcode (us.map BitVec.toNat) = asked r := by
  cases r with
  | reqSelect nfds readsds writesds exceptsds timeout =>
    rw [← Option.some.inj hwords, ← Option.some.inj hc]
    cases timeout <;> rfl
  | wlanSetScanParams scanFrequency channelMask =>
    rw [← Option.some.inj hwords, ← Option.some.inj hc]
    exact ofWords_scanParams scanFrequency channelMask
  | _ =>
    first
    | exact absurd hwords (Option.some_ne_none us).symm
    | rw [← Option.some.inj hwords, ← Option.some.inj hc]
      rfl

theorem readCommand_wordsOf (hwords : wordsOf r = some us) (hc : r.command = some c) :
    readCommand c.opcode (streamed c.calls) = asked r := by
  obtain ⟨hcalls, hopcode⟩ := calls_wordsOf hwords hc
  rw [hcalls, readCommand_words _ us hopcode, ofWords_wordsOf hwords hc]

end Words

theorem readCommand_setsockopt (sd : Byte) (level optname : BitVec 32) (optval : Mem)
    {optlen : BitVec 32} (hlen : optlen = 0#32 ∨ optlen = 2#32 ∨ optlen = 4#32) :
    readCommand hciCmndSetsockopt
        (streamed (cc3000Setsockopt sd level optname optval optlen).calls) =
      asked (.setsockopt sd level optname optval optlen) := by
  have hfit : ∀ v ∈ [sd.toNat, level.toNat, optname.toNat, 8, optlen.toNat], v < 256 ^ 4 := by
    have hsd := sd.isLt
    have hlevel := level.isLt
    have hname := optname.isLt
    have hlen := optlen.isLt
    simp only [List.mem_cons, List.not_mem_nil, or_false, forall_eq_or_imp, forall_eq]
    omega
  have htail : (bytesFrom optval optlen.toNat).length =
      [sd.toNat, level.toNat, optname.toNat, 8, optlen.toNat].getD 4 0 :=
    length_bytesFrom _ _
  rw [setsockopt_block sd level optname optval hlen]
  exact withBytes_block (fun w optval => .setsockopt (w 0) (w 1) (w 2) optval) rfl hfit _ htail

theorem readCommand_mdnsAdvertise (mdnsEnabled : Byte) (serviceName : CString)
    (hlen : serviceName.strlen < 256)
    (hshort : ¬ (serviceNameLength serviceName).toNat > mdnsDeviceServiceMaxLength) :
    readCommand hciCmndMdnsAdvertise
        (streamed (mdnsCommand mdnsEnabled serviceName (serviceNameLength serviceName)).calls) =
      asked (.socketMdnsAdvertise mdnsEnabled serviceName) := by
  have hfit : ∀ v ∈ [mdnsEnabled.toNat, 8, serviceName.strlen], v < 256 ^ 4 := by
    have henabled := mdnsEnabled.isLt
    simp only [List.mem_cons, List.not_mem_nil, or_false, forall_eq_or_imp, forall_eq]
    omega
  have hblock : streamed (mdnsCommand mdnsEnabled serviceName
      (serviceNameLength serviceName)).calls =
      (([mdnsEnabled.toNat, 8, serviceName.strlen] : List ℕ).map (toBytes 4)).flatten ++
        serviceName.bytes := by
    rw [ServiceNames.advertise_block mdnsEnabled serviceName hlen]
    simp [ServiceNames.advertiseArgs]
  have htail : serviceName.bytes.length =
      [mdnsEnabled.toNat, 8, serviceName.strlen].getD 2 0 := rfl
  rw [hblock, asked, if_neg hshort]
  exact withBytes_block (fun w name => .mdnsAdvertise (w 0) name) rfl hfit _ htail

theorem readCommand_addProfile {profile : Profile} {c : Command}
    (hc : profile.command = some c) (hreadable : Readable (.wlanAddProfile profile)) :
    readCommand c.opcode (streamed c.calls) = asked (.wlanAddProfile profile) := by
  obtain ⟨hknown, hwep, hfits⟩ := hreadable
  have hread := readAddProfile_given profile c hc hknown hwep hfits
  simp only [Profile.command, Option.map_eq_some_iff] at hc
  obtain ⟨pair, -, rfl⟩ := hc
  exact hread

/-- For every request with a command whose lengths fit: the device reads off its arguments
what the request asks for. -/
theorem readCommand_asked (r : Request) (c : Command) (hc : r.command = some c)
    (hreadable : Readable r) : readCommand c.opcode (streamed c.calls) = asked r := by
  cases hwords : wordsOf r with
  | some us => exact readCommand_wordsOf hwords hc
  | none =>
    cases r with
    | connect sd port addr =>
      rw [← Option.some.inj hc, SocketAddresses.connect_block]
      exact withAddress_block .connect sd port addr
    | bind sd port =>
      rw [← Option.some.inj hc, SocketAddresses.bind_block]
      exact withAddress_block .bind sd port SocketAddresses.zeroAddr
    | setsockopt sd level optname optval optlen =>
      rw [← Option.some.inj hc]
      exact readCommand_setsockopt sd level optname optval hreadable
    | socketMdnsAdvertise mdnsEnabled serviceName =>
      simp only [Request.command, Option.ite_none_left_eq_some, Option.some.injEq] at hc
      obtain ⟨hshort, rfl⟩ := hc
      exact readCommand_mdnsAdvertise mdnsEnabled serviceName hreadable hshort
    | wlanConnect ssid secType key =>
      cases key with
      | none => simp [Request.command, cc3000WlanConnect] at hc
      | some key =>
        have hfits : 28 + ssid.strlen + key.strlen ≤ 255 := hreadable
        have hblock := ConnectLayout.connect_block ssid key secType c hc (by omega) (by omega)
        have hread := ConnectLayout.readConnect_fields ssid key secType hblock hfits
        rw [← Option.some.inj hc] at hread ⊢
        exact congrArg (Option.map Operation.wlanConnect) hread
    | wlanAddProfile profile => exact readCommand_addProfile hc hreadable
    | _ => simp [wordsOf, Request.command] at hwords hc

end Cc3000Async.DeviceCommands
