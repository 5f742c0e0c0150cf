import Cc3000Async.ByteMemory

/-!
The numbers of the host controller interface: frame types, header offsets and
the opcodes the driver sends, expects and dispatches on.
-/
namespace Cc3000Async.Opcodes

open ByteMemory

def hciTypeCommand : Byte := 0x01
def hciTypeData : Byte := 0x02
def hciTypeEvent : Byte := 0x04

/-- Offsets into a received frame. -/
def hciTypeOffset : ℕ := 0
def hciOpcodeLsbOffset : ℕ := 1
def hciOpcodeMsbOffset : ℕ := 2
def hciArgsLengthLsbOffset : ℕ := 3
def hciArgsLengthMsbOffset : ℕ := 4
def hciArgsOffset : Byte := 5

def hciCommandHeaderLength : BitVec 16 := 4
def hciDataHeaderLength : BitVec 16 := 5

def spiOperationWrite : Byte := 0x01
def spiOperationRead : Byte := 0x03
def cc3000SpiHeaderSize : BitVec 16 := 5
def cc300SpiRxBufferSize : ℕ := 250

/-- Commands of the WLAN group. -/
def hciCmndWlanConnect : BitVec 16 := 0x0001
def hciCmndWlanDisconnect : BitVec 16 := 0x0002
def hciCmndWlanIoctlSetScanparam : BitVec 16 := 0x0003
def hciCmndWlanIoctlSetConnectionPolicy : BitVec 16 := 0x0004
def hciCmndWlanIoctlAddProfile : BitVec 16 := 0x0005
def hciCmndWlanIoctlDelProfile : BitVec 16 := 0x0006
def hciCmndWlanIoctlGetScanResults : BitVec 16 := 0x0007
def hciCmndEventMask : BitVec 16 := 0x0008
def hciCmndWlanIoctlStatusget : BitVec 16 := 0x0009
def hciCmndWlanIoctlSimpleConfigStart : BitVec 16 := 0x000A
def hciCmndWlanIoctlSimpleConfigStop : BitVec 16 := 0x000B
def hciCmndWlanIoctlSimpleConfigSetPrefix : BitVec 16 := 0x000C
def hciCmndWlanConfigurePatch : BitVec 16 := 0x000D

/-- Commands of the socket group. -/
def hciCmndSocket : BitVec 16 := 0x1001
def hciCmndBind : BitVec 16 := 0x1002
def hciCmndRecv : BitVec 16 := 0x1004
def hciCmndAccept : BitVec 16 := 0x1005
def hciCmndListen : BitVec 16 := 0x1006
def hciCmndConnect : BitVec 16 := 0x1007
def hciCmndBsdSelect : BitVec 16 := 0x1008
def hciCmndSetsockopt : BitVec 16 := 0x1009
def hciCmndGetsockopt : BitVec 16 := 0x100A
def hciCmndCloseSocket : BitVec 16 := 0x100B
def hciCmndRecvfrom : BitVec 16 := 0x100D
def hciCmndGethostname : BitVec 16 := 0x1010
def hciCmndMdnsAdvertise : BitVec 16 := 0x1011

/-- Opcodes of data frames, which carry a single opcode byte. -/
def hciDataBase : BitVec 16 := 0x80
def hciCmndSend : BitVec 16 := 0x01 + hciDataBase
def hciDataRecv : BitVec 16 := 0x85

/-- Commands on the non-volatile memory, and the two whose opcodes lie in the
range of the unsolicited events. -/
def hciCmndNvmemCreateEntry : BitVec 16 := 0x0203
def hciCmndNvmemRead : BitVec 16 := 0x0201
def hciCmndNvmemWritePatch : BitVec 16 := 0x0204
def hciCmndReadSpVersion : BitVec 16 := 0x0207
def hciCmndReadBufferSize : BitVec 16 := 0x400B
def hciCmndSimpleLinkStart : BitVec 16 := 0x4000

/-- Commands of the network application group. -/
def hciCmndNetappBase : BitVec 16 := 0x2000
def hciNetappDhcp : BitVec 16 := 0x0001 + hciCmndNetappBase
def hciNetappPingSend : BitVec 16 := 0x0002 + hciCmndNetappBase
def hciNetappPingReport : BitVec 16 := 0x0003 + hciCmndNetappBase
def hciNetappPingStop : BitVec 16 := 0x0004 + hciCmndNetappBase
def hciNetappIpconfig : BitVec 16 := 0x0005 + hciCmndNetappBase
def hciNetappArpFlush : BitVec 16 := 0x0006 + hciCmndNetappBase
def hciNetappSetDebugLevel : BitVec 16 := 0x0008 + hciCmndNetappBase
def hciNetappSetTimers : BitVec 16 := 0x0009 + hciCmndNetappBase

/-- Events that answer a command. -/
def hciEvntWlanConnect : BitVec 16 := 0x0001
def hciEvntWlanDisconnect : BitVec 16 := 0x0002
def hciEvntWlanIoctlAddProfile : BitVec 16 := 0x0005
def hciEvntSocket : BitVec 16 := hciCmndSocket
def hciEvntBind : BitVec 16 := hciCmndBind
def hciEvntRecv : BitVec 16 := hciCmndRecv
def hciEvntAccept : BitVec 16 := hciCmndAccept
def hciEvntListen : BitVec 16 := hciCmndListen
def hciEvntConnect : BitVec 16 := hciCmndConnect
def hciEvntSelect : BitVec 16 := hciCmndBsdSelect
def hciEvntCloseSocket : BitVec 16 := hciCmndCloseSocket
def hciEvntRecvfrom : BitVec 16 := hciCmndRecvfrom
def hciEvntSetsockopt : BitVec 16 := hciCmndSetsockopt
def hciEvntBsdGethostbyname : BitVec 16 := hciCmndGethostname
def hciEvntMdnsAdvertise : BitVec 16 := hciCmndMdnsAdvertise
def hciEvntSendto : BitVec 16 := 0x100F
def hciEvntNvmemCreateEntry : BitVec 16 := hciCmndNvmemCreateEntry
def hciEvntNvmemRead : BitVec 16 := hciCmndNvmemRead
def hciEvntNvmemWrite : BitVec 16 := 0x0202
def hciEvntReadSpVersion : BitVec 16 := hciCmndReadSpVersion

/-- The bit that marks an unsolicited event, and the one such event that matters. -/
def hciEvntUnsolBase : BitVec 16 := 0x4000
def hciEvntDataUnsolFreeBuff : BitVec 16 := 0x4100

/-- The bit that marks an unsolicited WLAN event, and the events in that range. -/
def hciEvntWlanUnsolBase : BitVec 16 := 0x8000
def hciEvntWlanUnsolConnect : BitVec 16 := 0x0001 + hciEvntWlanUnsolBase
def hciEvntWlanUnsolDisconnect : BitVec 16 := 0x0002 + hciEvntWlanUnsolBase
def hciEvntWlanUnsolDhcp : BitVec 16 := 0x0010 + hciEvntWlanUnsolBase
def hciEvntBsdTcpCloseWait : BitVec 16 := 0x0800 + hciEvntWlanUnsolBase

/-- The case labels of the switch on "normal" events, whose arguments are copied
to the return buffer. -/
def normalEvents : List (BitVec 16) :=
  [hciCmndReadBufferSize, hciCmndWlanConfigurePatch, hciNetappDhcp, hciNetappPingSend,
   hciNetappPingStop, hciNetappArpFlush, hciNetappSetDebugLevel, hciNetappSetTimers,
   hciEvntNvmemRead, hciEvntNvmemCreateEntry, hciCmndNvmemWritePatch,
   hciNetappPingReport, hciEvntMdnsAdvertise, hciCmndSetsockopt, hciCmndWlanConnect,
   hciCmndWlanIoctlStatusget, hciEvntWlanIoctlAddProfile, hciCmndWlanIoctlDelProfile,
   hciCmndWlanIoctlSetConnectionPolicy, hciCmndWlanIoctlSetScanparam,
   hciCmndWlanIoctlSimpleConfigStart, hciCmndWlanIoctlSimpleConfigStop,
   hciCmndWlanIoctlSimpleConfigSetPrefix, hciCmndEventMask, hciEvntWlanDisconnect,
   hciEvntSocket, hciEvntBind, hciCmndListen, hciEvntCloseSocket, hciEvntConnect,
   hciEvntNvmemWrite, hciEvntReadSpVersion, hciEvntBsdGethostbyname, hciEvntAccept,
   hciEvntRecv, hciEvntRecvfrom, hciEvntSendto, hciEvntSelect, hciCmndGetsockopt,
   hciCmndWlanIoctlGetScanResults, hciCmndSimpleLinkStart, hciNetappIpconfig]

end Cc3000Async.Opcodes
