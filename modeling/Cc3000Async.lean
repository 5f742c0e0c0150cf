import Cc3000Async.AnswersReturn
import Cc3000Async.ArgumentBlocks
import Cc3000Async.ArgumentLengths
import Cc3000Async.ConnectLayout
import Cc3000Async.ConnectionFlags
import Cc3000Async.CopiedAnswers
import Cc3000Async.DescriptorSets
import Cc3000Async.DeviceCommands
import Cc3000Async.DeviceSession
import Cc3000Async.DriverHistory
import Cc3000Async.FrameRoundTrip
import Cc3000Async.IrqHandshake
import Cc3000Async.LinkRefinement
import Cc3000Async.OperationsArrive
import Cc3000Async.ProfileLayout
import Cc3000Async.ReceiveBounds
import Cc3000Async.ReceiveStream
import Cc3000Async.ReceivedData
import Cc3000Async.RequestInterleaving
import Cc3000Async.ResponseDelivery
import Cc3000Async.Restart
import Cc3000Async.ScanResults
import Cc3000Async.SendCredits
import Cc3000Async.SendFrames
import Cc3000Async.ServiceLoop
import Cc3000Async.ServiceNames
import Cc3000Async.SocketAddresses
import Cc3000Async.SocketStatus
import Cc3000Async.StaleBytes
import Cc3000Async.Waiting
