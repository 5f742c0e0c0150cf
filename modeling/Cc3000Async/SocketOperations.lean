import Cc3000Async.HciFrames
import Cc3000Async.EventHandler

/-!
The socket operations. A request is the command it builds: the argument length it
declares and the calls that stream its arguments are taken from the source side by
side, since nothing in the source ties one to the other.
-/
namespace Cc3000Async.SocketOperations

open ByteMemory Opcodes TracedAccess DriverState HciFrames EventHandler

/-- A zero-terminated string: its bytes, none of them the terminator. -/
structure CString where
  bytes : List Byte
  noNul : ∀ b ∈ bytes, b ≠ 0#8

namespace CString

def strlen (s : CString) : ℕ := s.bytes.length

def byteAt (s : CString) (index : ℕ) : Byte := s.bytes.getD index 0

end CString

/-- The calls of a loop that sends a pointer's bytes one by one. -/
def sendEach (m : Mem) (n : ℕ) : List SendCall := (List.range n).map fun count => .uint8 (m count)

structure IpAddr where
  ip : Fin 4 → Byte

def afInet : BitVec 16 := 2

/-- The macro `htons`, whose shifts are made at the width of `int`. -/
def htons (a : BitVec 16) : BitVec 16 :=
  ((a.setWidth 32 >>> 8) ||| (a.setWidth 32 <<< 8)).setWidth 16

def cc3000ReqSocket (domain type protocol : Byte) : Command where
  opcode := hciCmndSocket
  argsLength := 3 * 4
  calls := [.uint32 (domain.setWidth 32), .uint32 (type.setWidth 32),
    .uint32 (protocol.setWidth 32)]
  expected := hciEvntSocket

def cc3000Connect (sd : Byte) (port : BitVec 16) (addr : IpAddr) : Command where
  opcode := hciCmndConnect
  argsLength := 20
  calls := [.uint32 (sd.setWidth 32), .uint32 0x00000008, .uint32 8, .uint16 afInet,
    .uint16 (htons port),
    .uint32 ((addr.ip 0).setWidth 32 + ((addr.ip 1).setWidth 32 <<< 8) +
      ((addr.ip 2).setWidth 32 <<< 16) + ((addr.ip 3).setWidth 32 <<< 24))]
  expected := hciEvntConnect

def cc3000ReqAccept (sd : Byte) : Command where
  opcode := hciCmndAccept
  argsLength := 4
  calls := [.uint32 (sd.setWidth 32)]
  expected := hciEvntAccept

def cc3000Listen (sd : Byte) : Command where
  opcode := hciCmndListen
  argsLength := 8
  calls := [.uint32 (sd.setWidth 32), .uint32 0x00000001]
  expected := hciEvntListen

def cc3000Bind (sd : Byte) (port : BitVec 16) : Command where
  opcode := hciCmndBind
  argsLength := 20
  calls := [.uint32 (sd.setWidth 32), .uint32 0x00000008, .uint32 8, .uint16 afInet,
    .uint16 (htons port), .uint32 0x00000000]
  expected := hciEvntBind

/-- The value that `*(uint16*)p` reads on a little-endian target. -/
def readUint16 (p : Mem) : BitVec 16 := word16 (p 1) (p 0)

/-- The value that `*(uint32*)p` reads on a little-endian target. -/
def readUint32 (p : Mem) : BitVec 32 := p 3 ++ p 2 ++ p 1 ++ p 0

def cc3000Setsockopt (sd : Byte) (level optname : BitVec 32) (optval : Mem)
    (optlen : BitVec 32) : Command where
  opcode := hciCmndSetsockopt
  argsLength := (20 + optlen).setWidth 8
  calls := [.uint32 (sd.setWidth 32), .uint32 level, .uint32 optname, .uint32 0x00000008,
      .uint32 optlen] ++
    (if optlen = 2#32 then [.uint16 (readUint16 optval)]
    else if optlen = 4#32 then [.uint32 (readUint32 optval)]
    else [])
  expected := hciEvntSetsockopt

structure Timeval where
  tvSec : BitVec 32
  tvUsec : BitVec 32

def selectTimeoutMinMicroSeconds : BitVec 32 := 5000

/-- The timeout that `cc3000_req_select` sends and leaves in the caller's struct. -/
def selectTimeout (timeout : Timeval) : Timeval :=
  if 0#32 = timeout.tvSec ∧ timeout.tvUsec.slt selectTimeoutMinMicroSeconds then
    { timeout with tvUsec := selectTimeoutMinMicroSeconds }
  else timeout

/-- Each descriptor set is its single mask word; none is a null pointer. -/
def cc3000ReqSelect (nfds : BitVec 32) (readsds writesds exceptsds : Option (BitVec 32))
    (timeout : Option Timeval) : Command where
  opcode := hciCmndBsdSelect
  argsLength := 44
  calls := [.uint32 nfds, .uint32 0x00000014, .uint32 0x00000014, .uint32 0x00000014,
      .uint32 0x00000014,
      .uint32 (match timeout with | none => 1 | some _ => 0),
      .uint32 (readsds.getD 0), .uint32 (writesds.getD 0), .uint32 (exceptsds.getD 0)] ++
    (match timeout with
    | some timeout =>
      [.uint32 (selectTimeout timeout).tvSec, .uint32 (selectTimeout timeout).tvUsec]
    | none => [.uint32 0, .uint32 0])
  expected := hciEvntSelect

/-- Write data to a socket: -2 without a free buffer, else 1. -/
def cc3000Send (sd : Byte) (buf : Mem) (len : BitVec 16) (flags : Byte) (s : State) :
    BitVec 8 × State :=
  if s.freeBuffers = 0#8 then (-2, s)
  else
    (1,
      (cc3000HciStartData (hciCmndSend.setWidth 8) 16 len ++
        callsProg
          ([.uint32 (sd.setWidth 32), .uint32 (16 - 4), .uint32 (len.setWidth 32),
            .uint32 (flags.setWidth 32)] ++
            (if len.toNat > 0 then sendEach buf len.toNat else [])) ++
        cc3000HciEndData).exec { s with freeBuffers := s.freeBuffers - 1 })

def cc3000ReqRecv (sd : Byte) (len : BitVec 16) (flags : Byte) : Command where
  opcode := hciCmndRecv
  argsLength := 3 * 4
  calls := [.uint32 (sd.setWidth 32), .uint32 (len.setWidth 32), .uint32 (flags.setWidth 32)]
  expected := hciEvntRecv

/-- The number of received bytes, kept in a byte; a positive one arms the
expectation of the data frame. -/
def cc3000GetRecvBytes (s : State) : Traced Access (BitVec 16 × State) := do
  let numBytes ← cc3000GetReturnUint8 s 4
  if numBytes.toNat > 0 then
    pure (numBytes.setWidth 16, Prog.exec [.incDesiredState, .hciExpect hciDataRecv] s)
  else pure (numBytes.setWidth 16, s)

theorem val_cc3000GetRecvBytes (s : State) :
    (cc3000GetRecvBytes s).val =
      ((s.returnBuffer 4).setWidth 16,
        if (s.returnBuffer 4).toNat > 0 then
          { s with desiredState := s.desiredState + 1, expect := hciDataRecv }
        else s) := by
  have hbyte : (cc3000GetReturnUint8 s 4).val = s.returnBuffer 4 := rfl
  simp only [cc3000GetRecvBytes, Traced.val_bind, hbyte]
  split <;> rfl

/-- The caller's buffer after the copy; the offset is narrowed to a byte by the
parameter type of `cc3000_get_return_stream`. -/
def cc3000GetRecvData (s : State) (buf : Mem) (len : Byte) : Traced Access Mem := do
  let argsLength ← cc3000GetReturnUint8 s 0
  let buf ← cc3000GetReturnStream s buf (argsLength + 3) len
  pure fun i => if i = len.toNat then 0 else buf i

theorem val_cc3000GetRecvData (s : State) (buf : Mem) (len : Byte) :
    (cc3000GetRecvData s buf len).val = fun i =>
      if i = len.toNat then 0
      else overlay (fun i => s.returnBuffer (i + (s.returnBuffer 0 + 3).toNat)) len.toNat buf i := by
  have hbyte : (cc3000GetReturnUint8 s 0).val = s.returnBuffer 0 := rfl
  simp only [cc3000GetRecvData, Traced.val_bind, Traced.val_pure, hbyte,
    val_cc3000GetReturnStream]

def closeCommand (sd : Byte) : Command where
  opcode := hciCmndCloseSocket
  argsLength := 4
  calls := [.uint32 (sd.setWidth 32)]
  expected := hciEvntCloseSocket

def cc3000SocketClose (sd : Byte) : Prog :=
  (closeCommand sd).prog ++ [.setSocketActiveStatus sd socketStatusInactive]

def mdnsDeviceServiceMaxLength : ℕ := 32

def mdnsCommand (mdnsEnabled : Byte) (serviceName : CString) (serviceNameLength : Byte) :
    Command where
  opcode := hciCmndMdnsAdvertise
  argsLength := 12 + serviceNameLength
  calls := [.uint32 (mdnsEnabled.setWidth 32), .uint32 8,
      .uint32 (serviceNameLength.setWidth 32)] ++
    sendEach serviceName.byteAt serviceNameLength.toNat
  expected := hciEvntMdnsAdvertise

/-- The name length as the byte `cc3000_socket_mdns_advertise` keeps it in. -/
def serviceNameLength (serviceName : CString) : Byte := BitVec.ofNat 8 serviceName.strlen

def cc3000SocketMdnsAdvertise (mdnsEnabled : Byte) (serviceName : CString) : BitVec 8 × Prog :=
  if (serviceNameLength serviceName).toNat > mdnsDeviceServiceMaxLength then (-1, [])
  else (0, (mdnsCommand mdnsEnabled serviceName (serviceNameLength serviceName)).prog)

end Cc3000Async.SocketOperations
