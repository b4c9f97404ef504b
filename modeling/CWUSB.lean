import CWUSB.SendPath
import CWUSB.SendBounds
import CWUSB.SendReset
import CWUSB.RoundTrip
import CWUSB.ReceiveBounds
import CWUSB.Overflow
import CWUSB.OversizedMessages
import CWUSB.DeclaredSize
import CWUSB.ReceiveReset
import CWUSB.Interlock
import CWUSB.StopRequest
import CWUSB.HelloFirst
import CWUSB.ReaderPaths
import CWUSB.DataCodec
import CWUSB.Destination
import CWUSB.KaiSettings
import CWUSB.ReceiveChain
import CWUSB.SessionKept
import CWUSB.StaleBytes
import CWUSB.ExactFragmentation
import CWUSB.RetryBudget
import CWUSB.FailureCount
import CWUSB.SendBacklog
import CWUSB.WholeMessages
import CWUSB.SettingsRoundTrip
import CWUSB.Lifecycle
import CWUSB.LastDisconnect
import CWUSB.DeviceListUse
import CWUSB.DeviceHandles
import CWUSB.SettingsLines
import CWUSB.StitchState
import CWUSB.SendOrder
import CWUSB.ReadOrder
import CWUSB.KaiPayloads
import CWUSB.KaiSteps
import CWUSB.ProgramSteps
import CWUSB.ProgramPaths
import CWUSB.Bridge
import CWUSB.Opening
import CWUSB.Shutdown
import CWUSB.KaiOrder
import CWUSB.KaiStops
import CWUSB.KaiRecovery
import CWUSB.HandleUse
import CWUSB.SettingsLoading
import CWUSB.ShutdownProgress
import CWUSB.SendProgress
import CWUSB.Delivery
import CWUSB.Forwarding
import CWUSB.KaiResponse
import CWUSB.Arrival
import CWUSB.HexDump
