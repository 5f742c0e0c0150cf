import Cc3000Async.DeviceSession
import Cc3000Async.LastWrites

/-!
The return buffer over a session, and what a send makes of it. An answer is copied only if
the copying switch names its opcode, and only as far as its arguments go, so every byte is
that of the last answer that brought one there. The answer to the buffer-size request is not
copied; the number of free buffers is read from whatever stands there instead.
-/
namespace Cc3000Async.CopiedAnswers

open ByteMemory LabelledRuns LastWrites Opcodes DriverState HciFrames EventHandler DeviceFrames
open FrameRoundTrip SocketOperations Requests StaleBytes BusTransactions DeviceSession
open ServiceLoop (service arrives)

end Cc3000Async.CopiedAnswers
